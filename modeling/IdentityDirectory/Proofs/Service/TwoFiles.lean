import IdentityDirectory.Proofs.Service.Kept
import IdentityDirectory.Proofs.Store.Paths
/-!
The files of two stores. The settings keep the stores out of each other's file, but not out of each other's
draft: a store whose file is the draft of the other loses it when the other is written.
-/
namespace IdentityDirectory
open Disk

namespace Backing
variable {b : Backing} {path q : String} {d : Disk}

theorem lookup_of_flush (file : ∃ isDirty, b = .file path isDirty) (ready : d.IsReady path)
    (apart : d.Apart q path) (aside : d.Apart q (draft path)) (text : String) :
    (b.flush text d).2.1.lookup q = d.lookup q := by
  obtain ⟨isDirty, rfl⟩ := file
  cases isDirty with
  | false => rfl
  | true =>
    have replaced := replaced_replace ready (apart_draft d path) (Text.utf8 text.toList)
    exact replaced.lookup_other apart aside

theorem lookup_draft_of_flush (dirty : b = .file path true) {text : String}
    (done : (b.flush text d).2.2 = .ok ()) : (b.flush text d).2.1.lookup (draft path) = none := by
  subst dirty
  simp only [flush, ↓reduceIte] at done ⊢
  have moved : (d.replace path (Text.utf8 text.toList)).2 = true := by
    cases outcome : (d.replace path (Text.utf8 text.toList)).2 with
    | true => rfl
    | false =>
      rw [outcome] at done
      contradiction
  exact (lookup_of_replace moved).2

end Backing

namespace StorageSettings

def paths (s : StorageSettings) : List String :=
  [s.identityPath, s.gatewayPath, draft s.identityPath, draft s.gatewayPath]

theorem violations_eq_nil {s : StorageSettings} {d : Disk} (json : s.backend = .json)
    (fine : s.violations d = []) :
    d.IsReady s.identityPath ∧ d.IsReady s.gatewayPath ∧ ¬ Path.IsSame s.identityPath s.gatewayPath := by
  simp only [violations, json, List.append_eq_nil_iff, Settings.pathViolations_eq_nil,
    Settings.when_eq_nil, decide_eq_false_iff_not] at fine
  obtain ⟨⟨⟨-, first⟩, -, second⟩, other⟩ := fine
  exact ⟨first, second, other⟩

/-- With settings in which nothing is found wrong, no store writes the file of the other, unless that is its own
draft. If it is, then each save that is done takes the file of the other away. -/
theorem stores_spare_other_file (s : StorageSettings) (d : Disk) (json : s.backend = .json)
    (fine : s.violations d = []) (flat : d.TellsApart s.paths) (i : IdentityStore) (g : GatewayStore)
    (identities : ∃ isDirty, i.backing = .file s.identityPath isDirty)
    (gateways : ∃ isDirty, g.backing = .file s.gatewayPath isDirty) :
    (¬ Path.IsSame s.gatewayPath (draft s.identityPath) →
        (i.flush d).2.1.lookup s.gatewayPath = d.lookup s.gatewayPath) ∧
      (¬ Path.IsSame s.identityPath (draft s.gatewayPath) →
        (g.flush d).2.1.lookup s.identityPath = d.lookup s.identityPath) ∧
      (s.gatewayPath = draft s.identityPath → i.backing = .file s.identityPath true →
        (i.flush d).2.2 = .ok () → (i.flush d).2.1.lookup s.gatewayPath = none) ∧
      (s.identityPath = draft s.gatewayPath → g.backing = .file s.gatewayPath true →
        (g.flush d).2.2 = .ok () → (g.flush d).2.1.lookup s.identityPath = none) := by
  obtain ⟨first, second, other⟩ := violations_eq_nil json fine
  have apart : d.Apart s.identityPath s.gatewayPath :=
    flat _ (by simp [paths]) _ (by simp [paths]) other
  refine ⟨?_, ?_, ?_, ?_⟩
  · intro aside
    have aside := flat s.gatewayPath (by simp [paths]) (draft s.identityPath) (by simp [paths]) aside
    exact Backing.lookup_of_flush identities first apart.symm aside _
  · intro aside
    have aside := flat s.identityPath (by simp [paths]) (draft s.gatewayPath) (by simp [paths]) aside
    exact Backing.lookup_of_flush gateways second apart aside _
  · intro draft dirty done
    rw [draft]
    exact Backing.lookup_draft_of_flush dirty done
  · intro draft dirty done
    rw [draft]
    exact Backing.lookup_draft_of_flush dirty done

theorem default_files_spared :
    let s : StorageSettings := { backend := .json }
    let old : Entry := .file (Text.utf8 "[]".toList)
    let d : Disk := ⟨[(["identity.json"], old), (["gateway.json"], old)], []⟩
    let i : IdentityStore := ⟨.file "identity.json" true, none, [Identity.ofAddr ⟨5⟩]⟩
    let g : GatewayStore := ⟨.file "gateway.json" true, [⟨⟨5⟩, none⟩]⟩
    s.violations d = [] ∧ (i.flush d).2.2 = .ok () ∧ (g.flush d).2.2 = .ok () ∧
      (i.flush d).2.1.lookup "gateway.json" = some old ∧
      (g.flush d).2.1.lookup "identity.json" = some old := by
  intro s old d i g
  have fine : s.violations d = [] := by decide +kernel
  have flat : d.TellsApart s.paths := tellsApart_of_plain (by decide +kernel) (by decide +kernel)
  obtain ⟨first, second, -⟩ := stores_spare_other_file s d rfl fine flat i g ⟨true, rfl⟩ ⟨true, rfl⟩
  have before : d.lookup s.identityPath = some old ∧ d.lookup s.gatewayPath = some old := by
    decide +kernel
  refine ⟨fine, by rfl, by rfl, ?_, ?_⟩
  · exact (first (by decide +kernel)).trans before.2
  · exact (second (by decide +kernel)).trans before.1

theorem draft_is_other_file :
    let s : StorageSettings := { backend := .json, identityPath := "g.json.tmp", gatewayPath := "g.json" }
    let d : Disk := ⟨[(["g.json.tmp"], .file (Text.utf8 "[]".toList))], []⟩
    let g : GatewayStore := ⟨.file "g.json" true, [⟨⟨5⟩, none⟩]⟩
    s.violations d = [] ∧ d.TellsApart s.paths ∧ (g.flush d).2.2 = .ok () ∧
      d.read s.identityPath = some (Text.utf8 "[]".toList) ∧
      (g.flush d).2.1.read s.identityPath = none := by
  intro s d g
  have flat : d.TellsApart s.paths := tellsApart_of_plain (by decide +kernel) (by decide +kernel)
  exact ⟨by decide +kernel, flat, by rfl, by decide +kernel, by decide +kernel⟩

end StorageSettings
end IdentityDirectory

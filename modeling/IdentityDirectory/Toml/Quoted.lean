import IdentityDirectory.Text.Number
/-!
TOML strings: between one quote or three on either side, single quotes for literal text, double quotes
for text with escapes. Written, a string takes the first form that needs no escapes but for tabs, which
are escaped wherever escapes are read.
-/
namespace IdentityDirectory.Toml

def isPlain (c : Char) : Bool := c = '\t' || (0x20 ≤ c.toNat && c.toNat ≠ 0x7F)

def isSpace (c : Char) : Bool := c = ' ' || c = '\t'

def unescape : Char → Option Char
  | '\x22' => some '\x22'
  | '\\' => some '\\'
  | 'b' => some '\x08'
  | 'f' => some '\x0c'
  | 'n' => some '\n'
  | 'r' => some '\r'
  | 't' => some '\t'
  | _ => none

def charOfDigits (ds : List Char) : Option Char := do
  let digits ← ds.mapM (Text.digitOf 16)
  let v := digits.foldl (fun v d => 16 * v + d) 0
  if v.isValidChar then some (Char.ofNat v) else none

def consFirst (c : Char) (r : List Char × List Char) : List Char × List Char := (c :: r.1, r.2)

def scanLiteral : List Char → Option (List Char × List Char)
  | [] => none
  | '\x27' :: s => some ([], s)
  | c :: s => if isPlain c then (scanLiteral s).map (consFirst c) else none

def scanBasic : List Char → Option (List Char × List Char)
  | [] => none
  | '\x22' :: s => some ([], s)
  | '\\' :: 'u' :: a :: b :: c :: d :: s => do
    let v ← charOfDigits [a, b, c, d]
    return consFirst v (← scanBasic s)
  | '\\' :: 'U' :: a :: b :: c :: d :: e :: f :: g :: h :: s => do
    let v ← charOfDigits [a, b, c, d, e, f, g, h]
    return consFirst v (← scanBasic s)
  | '\\' :: e :: s => do
    let v ← unescape e
    return consFirst v (← scanBasic s)
  | c :: s => if isPlain c then (scanBasic s).map (consFirst c) else none

def scanLiteralLines : List Char → Option (List Char × List Char)
  | [] => none
  | '\x27' :: '\x27' :: '\x27' :: '\x27' :: '\x27' :: s => some (['\x27', '\x27'], s)
  | '\x27' :: '\x27' :: '\x27' :: '\x27' :: s => some (['\x27'], s)
  | '\x27' :: '\x27' :: '\x27' :: s => some ([], s)
  | c :: s => if c = '\n' || isPlain c then (scanLiteralLines s).map (consFirst c) else none

/-- Where a reader of lines stands: in text, behind a backslash that ends a line, or behind the line. -/
inductive LineMode where
  | text
  | lineEnd
  | lineStart
  deriving DecidableEq, Repr

/-- The text up to three double quotes, one or two more in front of them being part of it. A backslash
at the end of a line swallows all blank space up to the next character. -/
def scanBasicLines : LineMode → List Char → Option (List Char × List Char)
  | _, [] => none
  | .lineEnd, c :: s =>
    if c = '\n' then scanBasicLines .lineStart s
    else if isSpace c then scanBasicLines .lineEnd s
    else none
  | .lineStart, '\n' :: s => scanBasicLines .lineStart s
  | .lineStart, ' ' :: s => scanBasicLines .lineStart s
  | .lineStart, '\t' :: s => scanBasicLines .lineStart s
  | _, '\x22' :: '\x22' :: '\x22' :: '\x22' :: '\x22' :: s => some (['\x22', '\x22'], s)
  | _, '\x22' :: '\x22' :: '\x22' :: '\x22' :: s => some (['\x22'], s)
  | _, '\x22' :: '\x22' :: '\x22' :: s => some ([], s)
  | _, '\\' :: 'u' :: a :: b :: c :: d :: s => do
    let v ← charOfDigits [a, b, c, d]
    return consFirst v (← scanBasicLines .text s)
  | _, '\\' :: 'U' :: a :: b :: c :: d :: e :: f :: g :: h :: s => do
    let v ← charOfDigits [a, b, c, d, e, f, g, h]
    return consFirst v (← scanBasicLines .text s)
  | _, '\\' :: '\n' :: s => scanBasicLines .lineStart s
  | _, '\\' :: ' ' :: s => scanBasicLines .lineEnd s
  | _, '\\' :: '\t' :: s => scanBasicLines .lineEnd s
  | _, '\\' :: e :: s => do
    let v ← unescape e
    return consFirst v (← scanBasicLines .text s)
  | _, c :: s =>
    if c = '\n' || isPlain c then (scanBasicLines .text s).map (consFirst c) else none

def dropBreak : List Char → List Char
  | '\n' :: s => s
  | s => s

def scanString : List Char → Option (List Char × List Char)
  | '\x22' :: '\x22' :: '\x22' :: s => scanBasicLines .text (dropBreak s)
  | '\x22' :: s => scanBasic s
  | '\x27' :: '\x27' :: '\x27' :: s => scanLiteralLines (dropBreak s)
  | '\x27' :: s => scanLiteral s
  | _ => none

def isControl (c : Char) : Bool := c.toNat < 0x20 || c.toNat = 0x7F

def hasTriple (q : Char) : List Char → Bool
  | a :: b :: c :: s => (a = q && b = q && c = q) || hasTriple q (b :: c :: s)
  | _ => false

def escape (c : Char) : List Char :=
  if c = '\x22' then ['\\', '\x22']
  else if c = '\\' then ['\\', '\\']
  else if c = '\x08' then ['\\', 'b']
  else if c = '\t' then ['\\', 't']
  else if c = '\n' then ['\\', 'n']
  else if c = '\x0c' then ['\\', 'f']
  else if c = '\r' then ['\\', 'r']
  else if isControl c then '\\' :: 'u' :: Text.hexFixed 4 c.toNat
  else [c]

def basic (s : List Char) : List Char := '\x22' :: (s.flatMap escape ++ ['\x22'])

def literal (s : List Char) : List Char := '\x27' :: (s ++ ['\x27'])

/-- The text between three double quotes, behind so many of them in a row. Line feeds need no escape
there, and neither do two double quotes; a third one would end the text. -/
def escapeLines : Nat → List Char → List Char
  | _, [] => []
  | n, c :: s =>
    if c = '\n' then '\n' :: escapeLines 0 s
    else if c = '\x22' ∧ n < 2 then '\x22' :: escapeLines (n + 1) s
    else escape c ++ escapeLines 0 s

def between (mark s body : List Char) : List Char :=
  mark ++ (if s.contains '\n' then ['\n'] else []) ++ body ++ mark

def basicLines (s : List Char) : List Char := between (List.replicate 3 '\x22') s (escapeLines 0 s)

def literalLines (s : List Char) : List Char := between (List.replicate 3 '\x27') s s

def isHidden (c : Char) : Bool := isControl c && c ≠ '\n' && c ≠ '\t'

/-- A string in the first of the four forms that takes it as it is. If none does, the forms with escapes
take any string, the one for lines where there are line feeds. -/
def quote (s : List Char) : List Char :=
  let hasLines := s.contains '\n'
  let isClean := !s.any isHidden
  if isClean && !hasLines && !s.contains '\x22' && !s.contains '\\' then basic s
  else if isClean && !hasLines && !s.contains '\x27' then literal s
  else if isClean && !s.contains '\\' && !hasTriple '\x22' s then basicLines s
  else if isClean && !hasTriple '\x27' s then literalLines s
  else if hasLines then basicLines s
  else basic s

end IdentityDirectory.Toml

/-!
Message tags: the first byte of every message names the request. Small letters concern devices,
capital letters gateways.
-/
namespace IdentityDirectory

inductive Tag where
  | addrLookup
  | euiLookup
  | assign
  | remove
  | list
  | count
  | forceSave
  | close
  | gatewayAddrLookup
  | gatewayIdLookup
  | gatewayAssign
  | gatewayRemove
  | gatewayList
  | gatewayCount
  | gatewayForceSave
  | gatewayClose
  deriving DecidableEq, Repr

namespace Tag

def letter : Tag → Char
  | addrLookup => 'a'
  | euiLookup => 'i'
  | assign => 'p'
  | remove => 'r'
  | list => 'l'
  | count => 'c'
  | forceSave => 's'
  | close => 'e'
  | gatewayAddrLookup => 'A'
  | gatewayIdLookup => 'I'
  | gatewayAssign => 'P'
  | gatewayRemove => 'R'
  | gatewayList => 'L'
  | gatewayCount => 'C'
  | gatewayForceSave => 'S'
  | gatewayClose => 'E'

def toByte (t : Tag) : UInt8 := UInt8.ofNat t.letter.toNat

def all : List Tag :=
  [addrLookup, euiLookup, assign, remove, list, count, forceSave, close,
   gatewayAddrLookup, gatewayIdLookup, gatewayAssign, gatewayRemove,
   gatewayList, gatewayCount, gatewayForceSave, gatewayClose]

def ofByte? (b : UInt8) : Option Tag := all.find? fun t => t.toByte = b

def isGateway (t : Tag) : Bool := t.letter.isUpper

inductive Layout where
  | eui
  | addr
  | identity
  | operation
  | gateway
  deriving DecidableEq, Repr

def layout : Tag → Layout
  | addrLookup => .eui
  | euiLookup => .addr
  | assign | remove => .identity
  | list | count | forceSave | close => .operation
  | gatewayAddrLookup | gatewayIdLookup | gatewayAssign | gatewayRemove => .gateway
  | gatewayList | gatewayCount | gatewayForceSave | gatewayClose => .operation

def name : Tag → String
  | addrLookup => "address-lookup"
  | euiLookup => "eui-lookup"
  | assign => "assign"
  | remove => "remove"
  | list => "list"
  | count => "count"
  | forceSave => "force-save"
  | close => "close-resources"
  | gatewayAddrLookup => "gateway-address-lookup"
  | gatewayIdLookup => "gateway-id-lookup"
  | gatewayAssign => "gateway-assign"
  | gatewayRemove => "gateway-remove"
  | gatewayList => "gateway-list"
  | gatewayCount => "gateway-count"
  | gatewayForceSave => "gateway-force-save"
  | gatewayClose => "gateway-close-resources"

theorem mem_all (t : Tag) : t ∈ all := by cases t <;> decide

theorem ofByte?_toByte (t : Tag) : ofByte? t.toByte = some t := by cases t <;> decide

theorem toByte_of_ofByte? {b : UInt8} {t : Tag} (h : ofByte? b = some t) : t.toByte = b := by
  simpa using List.find?_some h

end Tag
end IdentityDirectory

import ClusterBatch.Text.Numeral

/-!
# Node addresses

A node is known by its host and port. Hosts are names or numeric addresses, kept as given; an IPv6
host contains colons itself, so the port of an address text stands behind its last colon.
-/

namespace ClusterBatch

structure NodeAddress where
  host : String
  port : UInt16
  deriving DecidableEq, Repr, Inhabited

inductive AddressFault where
  | noPort
  | invalidPort
  | noHost
  deriving DecidableEq, Repr

structure AddressError where
  text : String
  fault : AddressFault
  deriving DecidableEq, Repr

namespace AddressError

def message (e : AddressError) : String :=
  "address `" ++ e.text ++ "` " ++ match e.fault with
    | .noPort => "has no port"
    | .invalidPort => "has an invalid port"
    | .noHost => "has no host"

end AddressError

namespace NodeAddress

def text (address : NodeAddress) : String := address.host ++ ":" ++ toString address.port.toNat

def splitAtLastColon? (text : List Char) : Option (List Char × List Char) :=
  let reversed := text.reverse
  match reversed.dropWhile (· ≠ ':') with
  | [] => none
  | _ :: host => some (host.reverse, (reversed.takeWhile (· ≠ ':')).reverse)

def withoutBrackets (host : List Char) : List Char :=
  ((host.dropWhile (· = '[')).reverse.dropWhile (· = ']')).reverse

def ofText (text : String) : Except AddressError NodeAddress :=
  match splitAtLastColon? text.toList with
  | none => .error ⟨text, .noPort⟩
  | some (host, port) =>
    match Numeral.below? UInt16.size port with
    | none => .error ⟨text, .invalidPort⟩
    | some port =>
      let host := withoutBrackets host
      if host = [] then .error ⟨text, .noHost⟩
      else .ok ⟨String.ofList host, UInt16.ofNat port⟩

/-- Addresses are ordered by their hosts, then by their ports. -/
instance : Ord NodeAddress where
  compare a b := (compare a.host b.host).then (compare a.port b.port)

end NodeAddress

end ClusterBatch

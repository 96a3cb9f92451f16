import CardDesk.Document
import CardDesk.Json.Members

namespace CardDesk.Json

def Number.document : Number → Document
  | natural n => if n ≤ 9223372036854775807 then .integer n else .number (.ofNat n)
  | negative n => .integer (-n)
  | float x => .number x

def readElements (read : Reader Document) : Nat → Bool → Reader (List Document)
  | 0, _, s => .error ⟨.eofInList, s⟩
  | fuel + 1, first, s =>
    match readElement first s with
    | .error f => .error f
    | .ok none => (closeList s).map ([], ·)
    | .ok (some s) =>
      match read s with
      | .error f => .error f
      | .ok (d, s) => (readElements read fuel false s).map fun (ds, s) => (d :: ds, s)

def readEntries (read : Reader Document) : Nat → Bool → Document.Members → Reader Document.Members
  | 0, _, _, s => .error ⟨.eofInObject, s⟩
  | fuel + 1, first, members, s =>
    match readKey first s with
    | .error f => .error f
    | .ok (none, s) => (closeObject s).map (members, ·)
    | .ok (some key, s) =>
      match readColon s with
      | .error f => .error f
      | .ok s =>
        match read s with
        | .error f => .error f
        | .ok (d, s) => readEntries read fuel false (Keyed.put key d members) s

def readDocument : Nat → Reader Document
  | depth, s =>
    match skipSpace s with
    | [] => .error ⟨.eofInValue, []⟩
    | b :: r =>
      if b = 0x6E then (readWord tailOfNull r).map (.null, ·)
      else if b = 0x74 then (readWord tailOfTrue r).map (.boolean true, ·)
      else if b = 0x66 then (readWord tailOfFalse r).map (.boolean false, ·)
      else if b = quoteMark then (readText r).map fun (t, r) => (.text t, r)
      else if b = 0x2D then (readNumber false r).map fun (n, r) => (n.document, r)
      else if isDigit b then (readNumber true (b :: r)).map fun (n, r) => (n.document, r)
      else match depth with
        | 0 => .error ⟨.expectedValue, r⟩
        | depth + 1 =>
          if b = 0x5B then
            (readElements (readDocument depth) s.length true r).map fun (ds, r) => (.list ds, r)
          else if b = 0x7B then
            (readEntries (readDocument depth) s.length true [] r).map fun (ms, r) => (.table ms, r)
          else .error ⟨.expectedValue, r⟩

def maxDepth : Nat := 127

def document? (s : String) : Option Document :=
  (readAll (readDocument maxDepth) s.toUTF8.toList).toOption

end CardDesk.Json

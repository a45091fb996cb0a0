import PodPlacement.Decode.Fault
import PodPlacement.Hcl.Body

/-! # Decoding HCL — expressions as values

    Values decode as they are; an expression that would need evaluation is
    taken by its written form where a text is asked for, and refused by its
    kind elsewhere. -/

namespace PodPlacement.HclExpr

/-- What an expression is, said by a reader who asked for something else. -/
def found (e : HclExpr) : String :=
  match e, e.kind? with
  | _, some kind => kind
  | .bool b, none => Found.bool b
  | .number (.whole n), none => Found.integer n
  | .number (.float x), none => Found.float (Layout.plain.text x)
  | .string s, none => Found.string s
  | .array _, none => Found.sequence
  | .object _, none => Found.map
  | _, none => "unit value"

/-- Says what was found where something else was asked for. -/
def wrongType {α : Type} (e : HclExpr) (expected : String) : Except DecodeFault α :=
  .error (.invalidType e.found expected)

/-- A text; what is not written as one stands for its canonical form. -/
def asText : HclExpr → String
  | .string s => s
  | .template text => text
  | .heredoc _ _ text => text
  | e => "$\x7b" ++ e.text ++ "\x7d"

/-- A natural number of 64 bits. -/
def asWord (expected : String) : HclExpr → Except DecodeFault UInt64
  | .number (.whole n) =>
    if n < 0 then .error (.invalidValue (Found.integer n) expected)
    else .ok (UInt64.ofNat n.toNat)
  | e => e.wrongType expected

/-- A value that may be `null`. -/
def asOption {α : Type} (decode : HclExpr → Except DecodeFault α) :
    HclExpr → Except DecodeFault (Option α)
  | .null => .ok none
  | e => (decode e).map some

/-- What a key names: a word, or a position among the words of a list. -/
inductive Named where
  | word (s : String)
  | position (n : Nat)

/-- What an expression names as a key. -/
def asName (expected : String) : HclExpr → Except DecodeFault Named
  | .parenthesis inner => asName expected inner
  | .number (.whole n) =>
    if n < 0 then .error (.invalidType (Found.integer n) expected) else .ok (.position n.toNat)
  | .string s => .ok (.word s)
  | e@(.null) | e@(.bool _) | e@(.number _) | e@(.array _) | e@(.object _) =>
    e.wrongType expected
  | e => .ok (.word e.asText)

/-- What a key names. -/
def keyName (expected : String) : HclKey → Except DecodeFault Named
  | .name s => .ok (.word s)
  | .value e => asName expected e

/-- The word of a list that is named, if any is. -/
def Named.among (words : List String) : Named → Option String
  | .word s => if s ∈ words then some s else none
  | .position n => words[n]?

/-- A word out of a few, alone or as the first key of an object that holds `null` under it. -/
def asVariant {α : Type} (known : List String) (ofName? : String → Option α) :
    HclExpr → Except DecodeFault α :=
  let variant (name : String) : Except DecodeFault α :=
    match ofName? name with
    | some a => .ok a
    | none => .error (.unknownVariant name known)
  fun
  | .string s => variant s
  | .template _ => variant "QuotedString"
  | .heredoc .. => variant "Heredoc"
  | .unary .. => variant "Unary"
  | .binary .. => variant "Binary"
  | .object [] => .error (.invalidType Found.map "enum")
  | .object ((key, value) :: _) => do
    let a ← match ← keyName "variant identifier" key with
      | .word s => variant s
      | .position n =>
        match known[n]? with
        | some name => variant name
        | none => throw (.invalidValue (Found.integer n)
            ("variant index 0 <= i < " ++ String.ofList (Digits.shortest known.length)))
    match value with
    | .null => return a
    | value => value.wrongType "unit"
  | e => e.wrongType "string, object, operation or template expression"

/-- A word that names something is read as that. -/
theorem asVariant_string {α : Type} {known : List String} {ofName? : String → Option α}
    {name : String} {a : α} (h : ofName? name = some a) :
    asVariant known ofName? (.string name) = .ok a := by
  simp only [asVariant, h]

end PodPlacement.HclExpr

import DeployForge.Json.Token

/-! Reading one text member of a JSON object; the other members may hold any values. -/

namespace DeployForge.Json

inductive Frame where
  | object
  | array
  deriving DecidableEq, Repr

inductive Expect where
  | value
  | firstValue
  | key
  | firstKey
  | colon
  | separator
  deriving DecidableEq, Repr

def skip (expect : Expect) (frames : List Frame) : List Token → Option (List Token)
  | [] => none
  | token :: rest =>
    let finish (frames : List Frame) : Option (List Token) :=
      match frames with
      | [] => some rest
      | frames => skip .separator frames rest
    match expect, token, frames with
    | .value, .scalar, _ | .firstValue, .scalar, _ => finish frames
    | .value, .string _, _ | .firstValue, .string _, _ => finish frames
    | .value, .openArray, _ | .firstValue, .openArray, _ => skip .firstValue (.array :: frames) rest
    | .value, .openObject, _ | .firstValue, .openObject, _ =>
      skip .firstKey (.object :: frames) rest
    | .firstValue, .closeArray, .array :: frames => finish frames
    | .firstKey, .closeObject, .object :: frames => finish frames
    | .firstKey, .string _, _ | .key, .string _, _ => skip .colon frames rest
    | .colon, .colon, _ => skip .value frames rest
    | .separator, .comma, .array :: _ => skip .value frames rest
    | .separator, .comma, .object :: _ => skip .key frames rest
    | .separator, .closeArray, .array :: frames => finish frames
    | .separator, .closeObject, .object :: frames => finish frames
    | _, _, _ => none

theorem length_of_skip {expect : Expect} {frames : List Frame} {s rest : List Token}
    (h : skip expect frames s = some rest) : rest.length < s.length := by
  induction s generalizing expect frames with
  | nil => simp [skip] at h
  | cons token s ih =>
    have step {expect frames} (h : skip expect frames s = some rest) :
        rest.length < (token :: s).length := Nat.lt_succ_of_lt (ih h)
    have finish {frames : List Frame} (h : (match frames with
        | [] => some s
        | frames => skip .separator frames s) = some rest) : rest.length < (token :: s).length := by
      split at h
      · cases h; simp
      · exact step h
    unfold skip at h
    dsimp only at h
    split at h <;> first | exact step h | exact finish h | cases h

/-- The members of an object from a key on. The member `name` has to be there once, as a text. -/
def membersFrom (name : List Char) (found : Option (List Char)) :
    List Token → Option (List Char)
  | .string key :: .colon :: rest => do
    let key ← unescape? key
    if key = name then
      match found, rest with
      | none, .string value :: .closeObject :: [] => unescape? value
      | none, .string value :: .comma :: rest => membersFrom name (some (← unescape? value)) rest
      | _, _ => none
    else
      match h : skip .value [] rest with
      | some [.closeObject] => found
      | some (.comma :: more) =>
        have := length_of_skip h
        membersFrom name found more
      | _ => none
  | _ => none
termination_by s => s.length
decreasing_by all_goals (simp_all; try omega)

def member? (name : String) (s : List Char) : Option String := do
  match ← tokens? s with
  | [.openArray, .string value, .closeArray] => return .ofList (← unescape? value)
  | .openObject :: rest => return .ofList (← membersFrom name.toList none rest)
  | _ => none

end DeployForge.Json

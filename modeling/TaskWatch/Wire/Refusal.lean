/-
# Why a text is no parameters

A text that cannot be read as `Params` is refused for one of two reasons: it is not JSON
(`malformed`), or it is JSON of the wrong shape (`mismatched`).  A text may have several
faults; the one that a reader meets first, going from left to right, is the reason.  So a
wrong value is the reason even if the text breaks off behind it.

`Params.refusal` goes through the text in that order.  It says why a text is refused that
`Params.decode?` does not accept, and means nothing for any other text.
-/
import TaskWatch.Wire.Snapshot

namespace TaskWatch

/-- **Why a text is refused.** -/
inductive Refusal where
  | malformed
  | mismatched
  deriving Repr, DecidableEq, Inhabited

namespace Params

open Json (Field skip)

/-- What a field's value has to be, judged by its first character. -/
def startsWell (f : Field) (c : Char) : Bool :=
  if f = Fields.repoUrl then c = '"' else c = 't' || c = 'f'

/-- **A value where a field's value is expected**: what follows it, or the reason to refuse
it.  An array or an object is refused at its bracket; any other value has to be complete
before it is seen to be of the wrong kind. -/
def fieldRest (f : Field) (cs : List Char) : Except Refusal (List Char) :=
  match skip cs with
  | [] => .error .malformed
  | c :: cs =>
    if c = '[' || c = '\x7b' then .error .mismatched
    else
      match Json.value? (cs.length + 2) (c :: cs) with
      | none => .error .malformed
      | some (j, rest) =>
        if !j.isReadable then .error .malformed
        else if startsWell f c then .ok rest
        else .error .mismatched

/-- The field that a name names. -/
def fieldNamed? (name : String) : Option Field :=
  layout.find? (·.accepts name)

/-- **The members of an object** from a name on; `seen` are the fields given so far. -/
def memberRefusal (seen : List Field) : Nat → List Char → Refusal
  | 0, _ => .malformed
  | fuel + 1, cs =>
    match skip cs with
    | '"' :: cs =>
      match Json.text? cs with
      | some (some name, rest) =>
        match fieldNamed? name with
        | some f =>
          if seen.contains f then .mismatched
          else
            match skip rest with
            | ':' :: rest =>
              match fieldRest f rest with
              | .error r => r
              | .ok rest => after (f :: seen) fuel rest
            | _ => .malformed
        | none =>
          match skip rest with
          | ':' :: rest =>
            match Json.value? (rest.length + 1) rest with
            | some (_, rest) => after seen fuel rest
            | none => .malformed
          | _ => .malformed
      | _ => .malformed
    | _ => .malformed
where
  /-- Behind a member. -/
  after (seen : List Field) (fuel : Nat) (cs : List Char) : Refusal :=
    match skip cs with
    | ',' :: cs => memberRefusal seen fuel cs
    | '\x7d' :: _ => if seen.contains Fields.repoUrl then .malformed else .mismatched
    | _ => .malformed

/-- **The items of an array** that stand for the fields still to come. -/
def itemRefusal : List Field → List Char → Refusal
  | [], _ => .malformed
  | f :: fields, cs =>
    match fieldRest f cs with
    | .error r => r
    | .ok rest =>
      match skip rest with
      | ',' :: rest => itemRefusal fields rest
      | _ => .malformed

/-- **Why a text is refused.** -/
def refusal (text : String) : Refusal :=
  let cs := text.toList
  match skip cs with
  | [] => .malformed
  | '\x7b' :: cs =>
    match skip cs with
    | '\x7d' :: _ => .mismatched
    | cs => memberRefusal [] (cs.length + 1) cs
  | '[' :: cs =>
    match skip cs with
    | ']' :: _ => .mismatched
    | cs => itemRefusal layout cs
  | cs =>
    match Json.value? (cs.length + 1) cs with
    | some (j, _) => if j.isReadable then .mismatched else .malformed
    | none => .malformed

end Params

end TaskWatch

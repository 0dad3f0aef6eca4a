import PlanTimelines.Proofs.StateVariables

/-! Terms written piece by piece, each piece behind what is there already. What comes out is the
text of the term, and for a state variable it is the label by which it is looked up. So a state
variable that is looked up is the one that messages show. -/

namespace PlanTimelines

namespace Term

mutual

/-- Writes a term behind what has been written before it. -/
def write : Term → String → String
  | .bool value, out => out ++ toString value
  | .int value, out => out ++ toString value
  | .real value, out => out ++ Decimal.ofFloat value
  | .object name, out => out ++ name
  | .param name, out => out ++ "?" ++ name
  | .fluent name args, out =>
    if args.isEmpty then out ++ name else writeAll ", " args 0 (out ++ name ++ "(") ++ ")"
  | .eq lhs rhs, out => write rhs (write lhs (out ++ "(") ++ " == ") ++ ")"
  | .not operand, out => write operand (out ++ "(not ") ++ ")"
  | .and operands, out => writeAll " and " operands 0 (out ++ "(") ++ ")"
  | .or operands, out => writeAll " or " operands 0 (out ++ "(") ++ ")"

/-- Writes the terms that stand in a list from a place on, each behind a separator unless its
place is the first. -/
def writeAll (separator : String) : List Term → Nat → String → String
  | [], _, out => out
  | t :: rest, place, out =>
    writeAll separator rest (place + 1) (write t (if place > 0 then out ++ separator else out))

end

end Term

mutual

theorem write_eq_append_text : (t : Term) → (out : String) → t.write out = out ++ t.text
  | .bool value, out => by
    rw [Term.write]
    cases value <;> rfl
  | .int _, _ | .real _, _ | .object _, _ => by
    rw [Term.write, Term.text]
  | .param name, out => by
    rw [Term.write, Term.text, String.append_assoc]
  | .fluent name [], out => by
    simp [Term.write, Term.text]
  | .fluent name (arg :: args), out => by
    simp [Term.write, Term.writeAll, Term.text, write_eq_append_text arg,
      writeAll_eq_append_textAfter ", " args, String.append_assoc]
  | .eq lhs rhs, out => by
    simp [Term.write, Term.text, write_eq_append_text lhs, write_eq_append_text rhs,
      String.append_assoc]
  | .not operand, out => by
    simp [Term.write, Term.text, write_eq_append_text operand, String.append_assoc]
  | .and [], out | .or [], out => by
    simp [Term.write, Term.writeAll, Term.text, String.append_assoc]
  | .and (t :: ts), out => by
    simp [Term.write, Term.writeAll, Term.text, write_eq_append_text t,
      writeAll_eq_append_textAfter " and " ts, String.append_assoc]
  | .or (t :: ts), out => by
    simp [Term.write, Term.writeAll, Term.text, write_eq_append_text t,
      writeAll_eq_append_textAfter " or " ts, String.append_assoc]

theorem writeAll_eq_append_textAfter (separator : String) :
    (ts : List Term) → (place : Nat) → (out : String) →
      Term.writeAll separator ts (place + 1) out = out ++ Term.textAfter separator ts
  | [], _, out => by
    simp [Term.writeAll, Term.textAfter]
  | t :: rest, place, out => by
    rw [Term.writeAll, writeAll_eq_append_textAfter separator rest, write_eq_append_text t,
      Term.textAfter]
    simp [String.append_assoc]

end

/-- The label of a state variable, which joins the names of its arguments where all of them are
objects, is what comes out when the state variable is written piece by piece, whatever its
arguments are. A key is therefore the text, and the name of the instance for the arguments. -/
theorem label_eq_write (v : StateVar) :
    v.label = v.toTerm.write "" ∧ v.label = v.text ∧
      v.text = instanceName v.name (v.args.map Term.text) ∧
      ∀ key, v.key? = some key ↔ key = v.text ∧
        ∃ names : List String, v.args = names.map .object ∧ instanceName v.name names = key := by
  have hwritten : v.toTerm.write "" = v.text := by
    rw [write_eq_append_text, String.empty_append]
    rfl
  refine ⟨(label_eq_text v).trans hwritten.symm, label_eq_text v, text_eq_instanceName v,
    fun key => ?_⟩
  rw [← key?_eq_some]
  exact ⟨fun h => ⟨(text_eq_of_key?_eq_some h).symm, h⟩, And.right⟩

example : (Term.fluent "at" [.object "r1", .eq (.param "x") (.int 2)]).write "" =
    "at(r1, (?x == 2))" := by
  decide

end PlanTimelines

import R2RPC.Library.JsonText

/-!
# Values that travel as JSON

A value is written, sent as text and read again, once or several times.

Main results:

- Definition {lit}`Value.hop`: one way.
- Theorem {lit}`Value.hop_eq`: a value loses its undefined fields and settles.
- Theorem {lit}`Value.hop_settled`: every further way changes nothing.
- Theorem {lit}`Value.get_hop`: a field on arrival.
- Theorem {lit}`Value.get_hop_object`: the fields of an object go their way each by itself.

Current gaps:

- Undefined fields inside of fields.
-/

namespace JavaScript
namespace Value

open Utf16

/-- A value that is sent as text. -/
def hop (value : Value) : Option Value := value.stringify.bind parse

/-- The fields of an object that are written. -/
def present (fields : Fields) : Fields := fields.filter fun field => !field.2.isUndefined

/-- An object without its undefined fields. -/
def pruned : Value → Value
  | .object inherits fields => .object inherits (present fields)
  | value => value

theorem stringify_pruned (value : Value) : value.pruned.stringify = value.stringify := by
  cases value with
  | object inherits fields =>
      have hfields : stringifyFields (present fields) = stringifyFields fields := by
        induction fields with
        | nil => rfl
        | cons field fields ih =>
            rw [present] at ih ⊢
            rw [List.filter_cons]
            split
            · rw [stringifyFields, stringifyFields, ih]
            next hundefined =>
              have hvalue : field.2 = .undefined := by
                cases hfield : field.2 with
                | undefined => rfl
                | _ => simp [hfield, isUndefined] at hundefined
              rw [stringifyFields, hvalue, stringify, ih]
      rw [pruned, stringify, stringify, hfields]
  | _ => rfl

/-- What arrives. -/
theorem hop_eq {value : Value} (h : value.pruned.IsJson) :
    value.hop = some value.pruned.settled := by
  rcases parse_stringify h with ⟨text, htext, hparse⟩
  rw [hop, ← stringify_pruned, htext, Option.bind_some, hparse]

theorem hop_of_isJson {value : Value} (h : value.IsJson) : value.hop = some value.settled := by
  rcases parse_stringify h with ⟨text, htext, hparse⟩
  rw [hop, htext, Option.bind_some, hparse]

/-- Every further way changes nothing. -/
theorem hop_settled {value : Value} (h : value.IsJson) : value.settled.hop = some value.settled := by
  rw [hop, stringify_settled, ← hop, hop_of_isJson h]

/-- A value settles once. -/
theorem settled_settled {value : Value} (h : value.IsJson) :
    value.settled.settled = value.settled :=
  Option.some.inj ((hop_of_isJson (isJson_settled h)).symm.trans (hop_settled h))

/-- An object literal whose fields are values that JSON can write, or undefined. -/
theorem pruned_isJson {fields : Fields} (hordered : Ordered fields)
    (h : ∀ field ∈ fields, field.2 = .undefined ∨ field.2.IsJson) :
    (Value.object true fields).pruned.IsJson := by
  rw [pruned, IsJson, isJsonFields_iff]
  refine ⟨rfl, List.Pairwise.filter _ hordered, fun field hfield => ?_⟩
  obtain ⟨hmem, hpresent⟩ := List.mem_filter.mp hfield
  rcases h field hmem with hundefined | hjson
  · rw [hundefined] at hpresent
    contradiction
  · exact hjson

/-! ## Fields on arrival -/

/-- A field of an object that JSON can write, or nothing. -/
theorem get_isJson {key : JsString} (hkey : inherited key = .undefined) {fields : Fields}
    (h : (Value.object true fields).IsJson) :
    (Value.object true fields).get key = .undefined ∨
      ((Value.object true fields).get key).IsJson := by
  rw [IsJson, isJsonFields_iff] at h
  rw [get, lookup, hkey]
  cases hfound : fields.find? (·.1 == key) with
  | none => exact .inl rfl
  | some field => exact .inr (h.2.2 field (List.mem_of_find?_eq_some hfound))

theorem get_settled {key : JsString} (hkey : inherited key = .undefined) (inherits : Bool)
    (fields : Fields) :
    (Value.object inherits fields).settled.get key =
      ((Value.object inherits fields).get key).settled := by
  rw [settled, get, get, lookup_settledFields, hkey]
  cases lookup fields key with
  | none => cases inherits <;> rfl
  | some value => rfl

theorem get_pruned {key : JsString} (hkey : inherited key = .undefined) {inherits : Bool}
    {fields : Fields} (hnodup : (fields.map (·.1)).Nodup) :
    (Value.object inherits fields).pruned.get key = (Value.object inherits fields).get key := by
  rw [pruned, get, get, hkey, ite_self]
  induction fields with
  | nil => rfl
  | cons field fields ih =>
      rw [List.map_cons, List.nodup_cons] at hnodup
      have hrest := ih hnodup.2
      rw [present] at hrest ⊢
      rw [List.filter_cons, lookup, lookup, List.find?_cons]
      rw [lookup, lookup] at hrest
      by_cases hname : field.1 = key
      · have hsame : (field.1 == key) = true := by simpa using hname
        by_cases hundefined : field.2.isUndefined = true
        · -- the only field with this name is not written
          have hvalue : field.2 = .undefined := by
            cases hfield : field.2 with
            | undefined => rfl
            | _ => simp [hfield, isUndefined] at hundefined
          have hnone : fields.find? (fun other => other.1 == key) = none := by
            refine List.find?_eq_none.mpr fun other hother hkey => hnodup.1 ?_
            exact List.mem_map.mpr ⟨other, hother, by rw [hname]; simpa using hkey⟩
          rw [hundefined, if_neg (by simp), hrest, hnone, hsame]
          exact hvalue.symm
        · rw [if_pos (by simpa using hundefined), List.find?_cons, hsame]
      · have hother : (field.1 == key) = false := by simpa using hname
        by_cases hundefined : field.2.isUndefined = true
        · rw [hundefined, if_neg (by simp), hrest, hother]
        · rw [if_pos (by simpa using hundefined), List.find?_cons, hother]
          exact hrest

/-- A field of an object that has arrived. -/
theorem get_hop {key : JsString} (hkey : inherited key = .undefined) {inherits : Bool}
    {fields : Fields} (hnodup : (fields.map (·.1)).Nodup) :
    (Value.object inherits fields).pruned.settled.get key =
      ((Value.object inherits fields).get key).settled := by
  rw [← get_pruned hkey hnodup, pruned, get_settled hkey]

/-- A field of an object goes its way by itself. -/
theorem get_hop_object {key : JsString} (hkey : inherited key = .undefined) {fields : Fields}
    (hordered : Ordered fields) (h : ∀ field ∈ fields, field.2 = .undefined ∨ field.2.IsJson) :
    (Value.object true fields).hop.map (·.get key) =
      some (((Value.object true fields).get key).hop.getD .undefined) := by
  have hnodup : (fields.map (·.1)).Nodup :=
    List.pairwise_map.mpr (hordered.imp fun hkeys => hkeys.1)
  rw [hop_eq (pruned_isJson hordered h), Option.map_some, get_hop hkey hnodup]
  have hfield : (Value.object true fields).get key = .undefined ∨
      ((Value.object true fields).get key).IsJson := by
    rw [get, lookup, hkey]
    cases hfound : fields.find? (·.1 == key) with
    | none => exact .inl rfl
    | some field => exact h field (List.mem_of_find?_eq_some hfound)
  rcases hfield with hundefined | hjson
  · rw [hundefined]
    rfl
  · rw [hop_of_isJson hjson, Option.getD_some]

end Value
end JavaScript

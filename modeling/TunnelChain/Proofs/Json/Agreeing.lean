import TunnelChain.Proofs.Json.Visiting

/-!
# Objects that agree but on one field

Texts of objects that are the same but for the value of one field are read as objects that agree on
every other field. What is read from such objects differs at most where that field counts.
-/

namespace TunnelChain.Json

section Fields

variable {α : Type} {name : String} {fields others : List (String × α)}

/-- Whether fields agree on every name but one. -/
def AgreeBut (name : String) (fields others : List (String × α)) : Prop :=
  ∀ other ≠ name, fields.lookup other = others.lookup other

theorem lookup_insertField (name other : String) (value : α) (fields : List (String × α)) :
    (insertField name value fields).lookup other =
      if other = name then some value else fields.lookup other := by
  induction fields with
  | nil => rw [insertField, lookup_cons_ite]
  | cons first rest ih =>
    obtain ⟨key, old⟩ := first
    unfold insertField
    by_cases hsame : name = key
    · subst hsame
      rw [if_pos rfl, lookup_cons_ite, lookup_cons_ite]
      by_cases hother : other = name <;> simp [hother]
    · rw [if_neg hsame]
      by_cases hlt : name < key
      · rw [if_pos hlt, lookup_cons_ite]
      · rw [if_neg hlt, lookup_cons_ite, lookup_cons_ite, ih]
        by_cases hother : other = name
        · subst hother
          simp [hsame]
        · simp [hother]

theorem AgreeBut.insertField (h : AgreeBut name fields others) (key : String) (value : α) :
    AgreeBut name (insertField key value fields) (insertField key value others) := by
  intro other hother
  rw [lookup_insertField, lookup_insertField, h other hother]

theorem AgreeBut.insertField_self (h : AgreeBut name fields others) (value twin : α) :
    AgreeBut name (Json.insertField name value fields) (Json.insertField name twin others) := by
  intro other hother
  rw [lookup_insertField, lookup_insertField, if_neg hother, if_neg hother, h other hother]

theorem agreeBut_sortFields (name : String) (value twin : α) (before after : List (String × α)) :
    AgreeBut name (sortFields (before ++ (name, value) :: after))
      (sortFields (before ++ (name, twin) :: after)) := by
  have hfold (fields others : List (String × α)) (h : AgreeBut name fields others) :
      AgreeBut name (after.foldl (fun done field => insertField field.1 field.2 done) fields)
        (after.foldl (fun done field => insertField field.1 field.2 done) others) := by
    induction after generalizing fields others with
    | nil => exact h
    | cons field rest ih => exact ih _ _ (h.insertField field.1 field.2)
  unfold sortFields
  rw [List.foldl_append, List.foldl_append]
  exact hfold _ _ (AgreeBut.insertField_self (fun _ _ => rfl) value twin)

end Fields

/-! ## Texts -/

namespace Draft

variable {depth : Nat} {before after : List (Option String × Draft)} {name : String}
  {item twin : Draft} {parsed others : List (String × Json)}

theorem fields?_append (depth : Nat) (before after : List (Option String × Draft)) :
    toJson?.fields? depth (before ++ after) =
      (toJson?.fields? depth before).bind fun first =>
        (toJson?.fields? depth after).map (first ++ ·) := by
  induction before with
  | nil => simp [toJson?.fields?]
  | cons field rest ih =>
    obtain ⟨name, item⟩ := field
    cases name with
    | none => rfl
    | some name =>
      rw [List.cons_append, toJson?.fields?, toJson?.fields?, ih]
      cases toJson? depth item with
      | none => rfl
      | some value =>
        cases toJson?.fields? depth rest with
        | none => rfl
        | some first =>
          cases toJson?.fields? depth after <;> rfl

theorem fields?_differing
    (h : toJson?.fields? depth (before ++ (some name, item) :: after) = some parsed) :
    ∃ first value last, toJson?.fields? depth before = some first ∧
      toJson?.fields? depth after = some last ∧ parsed = first ++ (name, value) :: last := by
  rw [fields?_append, Option.bind_eq_some_iff] at h
  obtain ⟨first, hfirst, h⟩ := h
  obtain ⟨rest, hrest, rfl⟩ := Option.map_eq_some_iff.mp h
  rw [toJson?.fields?] at hrest
  cases hvalue : toJson? depth item with
  | none =>
    rw [hvalue] at hrest
    cases hrest
  | some value =>
    rw [hvalue] at hrest
    obtain ⟨last, hlast, rfl⟩ := Option.map_eq_some_iff.mp hrest
    exact ⟨first, value, last, hfirst, hlast, rfl⟩

/-- What is read of objects whose texts are the same but for the value of one field. -/
theorem agreeBut_of_toJson? {body other : Json}
    (hbody : toJson? depth (.obj (before ++ (some name, item) :: after)) = some body)
    (hother : toJson? depth (.obj (before ++ (some name, twin) :: after)) = some other) :
    ∃ fields others, body = .obj fields ∧ other = .obj others ∧ AgreeBut name fields others := by
  rw [toJson?] at hbody hother
  by_cases hdepth : depth = 0
  · rw [if_pos hdepth] at hbody
    cases hbody
  · rw [if_neg hdepth] at hbody hother
    obtain ⟨parsed, hparsed, rfl⟩ := Option.map_eq_some_iff.mp hbody
    obtain ⟨twins, htwins, rfl⟩ := Option.map_eq_some_iff.mp hother
    obtain ⟨first, value, last, hfirst, hlast, rfl⟩ := fields?_differing hparsed
    obtain ⟨_, twinValue, _, hfirst', hlast', rfl⟩ := fields?_differing htwins
    cases hfirst.symm.trans hfirst'
    cases hlast.symm.trans hlast'
    exact ⟨_, _, rfl, rfl, agreeBut_sortFields name value twinValue first last⟩

end Draft

/-! ## Records -/

namespace Record

variable {α β : Type} {name : String} {source : Source} {relation : α → α → Prop}
  {result : β → β → Prop}

/-- Whether what a record is put together to stands in a relation when only one name is given
differently. -/
def Relates (name : String) (relation : α → α → Prop) (record : Record α) : Prop :=
  ∀ source given others value twin, (∀ other ≠ name, given other = others other) →
    record.build source given = .ok value → record.build source others = .ok twin →
      relation value twin

theorem Relates.seq {builder : Record (α → β)} {rest : Record α}
    (hbuilder : builder.Relates name fun f g => ∀ value twin, relation value twin →
      result (f value) (g twin))
    (hrest : rest.Relates name relation) : (builder <*> rest).Relates name result := by
  intro source given others value twin hgiven hvalue htwin
  obtain ⟨f, input, hf, hinput, rfl⟩ := build_seq_ok hvalue
  obtain ⟨g, twinInput, hg, htwinInput, rfl⟩ := build_seq_ok htwin
  exact hbuilder source given others f g hgiven hf hg input twinInput
    (hrest source given others input twinInput hgiven hinput htwinInput)

theorem Relates.map {record : Record α} (h : record.Relates name relation) {f : α → β}
    (hf : ∀ value twin, relation value twin → result (f value) (f twin)) :
    (f <$> record).Relates name result := by
  refine Relates.seq ?_ h
  intro source given others g twin _ hg htwin
  cases hg
  cases htwin
  exact hf

theorem relates_any (record : Record α) : record.Relates name fun _ _ => True :=
  fun _ _ _ _ _ _ _ _ => trivial

theorem relates_required {field : String} (hne : field ≠ name) (reader : Reader α) :
    (required field reader).Relates name Eq := by
  intro source given others value twin hgiven hvalue htwin
  simp only [required, hgiven field hne] at hvalue htwin
  exact Except.ok.inj (hvalue.symm.trans htwin)

theorem relates_optional {field : String} (hne : field ≠ name) (reader : Reader α) :
    (optional field reader).Relates name Eq := by
  intro source given others value twin hgiven hvalue htwin
  simp only [optional, withDefault, hgiven field hne] at hvalue htwin
  exact Except.ok.inj (hvalue.symm.trans htwin)

theorem Relates.read {record : Record α} (h : record.Relates name relation) (label : String)
    {fields others : List (String × Json)} (hfields : AgreeBut name fields others) {value twin : α}
    (hvalue : read label record source (Json.obj fields).toDraft = .ok value)
    (htwin : read label record source (Json.obj others).toDraft = .ok twin) :
    relation value twin := by
  refine h source _ _ value twin (fun other hother => ?_) (build_of_read hvalue)
    (build_of_read htwin)
  rw [hfields other hother]

end Record

end TunnelChain.Json

import Mathlib.Data.String.Basic
import TunnelChain.Proofs.Json.Reading

/-!
# Objects as they come

A parsed object has each name once. What is read from a value does not depend on where the value
comes from: that only decides how a fault is worded.
-/

namespace TunnelChain.Json

/-! ## Distinct names -/

section Fields

variable {α : Type} {fields : List (String × α)}

theorem mem_insertField {name : String} {value : α} {field : String × α}
    (h : field ∈ insertField name value fields) : field = (name, value) ∨ field ∈ fields := by
  induction fields with
  | nil => exact .inl (List.mem_singleton.mp h)
  | cons first rest ih =>
    obtain ⟨other, old⟩ := first
    unfold insertField at h
    by_cases hsame : name = other
    · rw [if_pos hsame] at h
      exact (List.mem_cons.mp h).imp_right (List.mem_cons_of_mem _)
    · rw [if_neg hsame] at h
      by_cases hlt : name < other
      · rw [if_pos hlt] at h
        exact List.mem_cons.mp h
      · rw [if_neg hlt] at h
        obtain rfl | hrest := List.mem_cons.mp h
        · exact .inr List.mem_cons_self
        · exact (ih hrest).imp_right (List.mem_cons_of_mem _)

theorem pairwise_insertField (h : fields.Pairwise (fun left right => left.1 < right.1))
    (name : String) (value : α) :
    (insertField name value fields).Pairwise (fun left right => left.1 < right.1) := by
  induction fields with
  | nil => exact List.pairwise_singleton _ _
  | cons first rest ih =>
    obtain ⟨other, old⟩ := first
    obtain ⟨hfirst, hrest⟩ := List.pairwise_cons.mp h
    unfold insertField
    by_cases hsame : name = other
    · subst hsame
      rw [if_pos rfl]
      exact List.pairwise_cons.mpr ⟨hfirst, hrest⟩
    · rw [if_neg hsame]
      by_cases hlt : name < other
      · rw [if_pos hlt]
        refine List.pairwise_cons.mpr ⟨fun field hmem => ?_, h⟩
        obtain rfl | hmem := List.mem_cons.mp hmem
        · exact hlt
        · exact hlt.trans (hfirst field hmem)
      · rw [if_neg hlt]
        refine List.pairwise_cons.mpr ⟨fun field hmem => ?_, ih hrest⟩
        obtain rfl | hmem := mem_insertField hmem
        · exact lt_of_le_of_ne (not_lt.mp hlt) (Ne.symm hsame)
        · exact hfirst field hmem

theorem nodup_sortFields (fields : List (String × α)) : ((sortFields fields).map (·.1)).Nodup := by
  have hfold (done : List (String × α)) (h : done.Pairwise (fun left right => left.1 < right.1)) :
      (fields.foldl (fun done field => insertField field.1 field.2 done) done).Pairwise
        (fun left right => left.1 < right.1) := by
    induction fields generalizing done with
    | nil => exact h
    | cons field rest ih => exact ih _ (pairwise_insertField h _ _)
  rw [List.nodup_iff_pairwise_ne, List.pairwise_map]
  exact (hfold [] List.Pairwise.nil).imp fun hlt => hlt.ne

end Fields

theorem nodup_of_parse? {text : String} {fields : List (String × Json)}
    (h : parse? text = some (.obj fields)) : (fields.map (·.1)).Nodup := by
  unfold parse? at h
  dsimp only at h
  split at h
  · cases h
  · generalize (Draft.Document.ofText text).root = root at h
    cases root with
    | obj drafts =>
      rw [Draft.toJson?] at h
      split at h
      · cases h
      · obtain ⟨parsed, -, hparsed⟩ := Option.map_eq_some_iff.mp h
        cases hparsed
        exact nodup_sortFields parsed
    | arr items =>
      rw [Draft.toJson?] at h
      split at h
      · cases h
      · obtain ⟨parsed, -, hparsed⟩ := Option.map_eq_some_iff.mp h
        cases hparsed
    | _ => cases h

/-! ## Sources -/

/-- Whether a reader gets the same value from every source. -/
def Reader.Impartial {α : Type} (reader : Reader α) : Prop :=
  ∀ source other draft value, reader source draft = .ok value → reader other draft = .ok value

theorem map_eq_ok {α β : Type} {result : Except Fault α} {f : α → β} {value : β} :
    result.map f = .ok value ↔ ∃ input, result = .ok input ∧ f input = value := by
  cases result with
  | error fault => simp [Except.map]
  | ok input => simp [Except.map]

theorem bind_eq_ok {ε α β : Type} {result : Except ε α} {f : α → Except ε β} {value : β} :
    (result >>= f) = .ok value ↔ ∃ input, result = .ok input ∧ f input = .ok value := by
  cases result with
  | error error => simp [bind, Except.bind]
  | ok input => simp [bind, Except.bind]

namespace Reader

variable {α : Type} {reader : Reader α}

theorem impartial_text : text.Impartial := fun _ _ _ _ h => h

theorem impartial_flag : flag.Impartial := fun _ _ _ _ h => h

theorem impartial_natural16 : natural16.Impartial := fun _ _ _ _ h => h

theorem impartial_natural32 : natural32.Impartial := fun _ _ _ _ h => h

theorem Impartial.option (hreader : reader.Impartial) : (option reader).Impartial := by
  intro source other draft value h
  by_cases hnull : draft = .null
  · subst hnull
    exact h
  · rw [Record.option_of_ne_null hnull, map_eq_ok] at h ⊢
    obtain ⟨input, hinput, hvalue⟩ := h
    exact ⟨input, hreader source other draft input hinput, hvalue⟩

theorem Impartial.list (hreader : reader.Impartial) : (list reader).Impartial := by
  intro source other draft values h
  cases draft with
  | arr items =>
    change items.mapM (reader source) = .ok values at h
    change items.mapM (reader other) = .ok values
    induction items generalizing values with
    | nil => exact h
    | cons item rest ih =>
      rw [List.mapM_cons, bind_eq_ok] at h ⊢
      obtain ⟨first, hfirst, h⟩ := h
      refine ⟨first, hreader source other item first hfirst, ?_⟩
      rw [bind_eq_ok] at h ⊢
      obtain ⟨others, hothers, h⟩ := h
      exact ⟨others, ih _ hothers, h⟩
  | _ => exact h

end Reader

namespace Record

variable {α β : Type}

/-- Whether the checks and the value of a record do not depend on the source. -/
structure Impartial (record : Record α) : Prop where
  check : ∀ field ∈ record.fields, ∀ source other draft,
    field.check source draft = .ok () → field.check other draft = .ok ()
  build : ∀ source other given value,
    record.build source given = .ok value → record.build other given = .ok value

theorem impartial_pure (value : α) : (pure value : Record α).Impartial :=
  ⟨fun _ hfield => absurd hfield List.not_mem_nil, fun _ _ _ _ h => h⟩

theorem Impartial.seq {builder : Record (α → β)} {rest : Record α} (hbuilder : builder.Impartial)
    (hrest : rest.Impartial) : (builder <*> rest).Impartial where
  check field hfield source other draft h := by
    obtain hmem | hmem := List.mem_append.mp hfield
    · exact hbuilder.check field hmem source other draft h
    · exact hrest.check field hmem source other draft h
  build source other given value h := by
    obtain ⟨f, input, hf, hinput, rfl⟩ := build_seq_ok h
    exact build_seq (hbuilder.build source other given f hf)
      (hrest.build source other given input hinput)

theorem Impartial.map {record : Record α} (h : record.Impartial) (f : α → β) :
    (f <$> record).Impartial :=
  (impartial_pure f).seq h

theorem impartial_withDefault {reader : Reader α} (hreader : reader.Impartial) (name : String)
    (default : α) : (withDefault name default reader).Impartial where
  check field hfield source other draft h := by
    obtain rfl := List.mem_singleton.mp hfield
    obtain ⟨value, hvalue, -⟩ := map_eq_ok.mp h
    exact map_eq_ok.mpr ⟨value, hreader source other draft value hvalue, rfl⟩
  build source other given value h := by
    simp only [withDefault] at h ⊢
    cases hgiven : given name with
    | none => rwa [hgiven] at h
    | some draft =>
      rw [hgiven] at h
      exact hreader source other draft value h

theorem impartial_required {reader : Reader α} (hreader : reader.Impartial) (name : String) :
    (required name reader).Impartial where
  check field hfield source other draft h := by
    obtain rfl := List.mem_singleton.mp hfield
    obtain ⟨value, hvalue, -⟩ := map_eq_ok.mp h
    exact map_eq_ok.mpr ⟨value, hreader source other draft value hvalue, rfl⟩
  build source other given value h := by
    simp only [required] at h ⊢
    cases hgiven : given name with
    | none =>
      rw [hgiven] at h
      cases h
    | some draft =>
      rw [hgiven] at h
      exact hreader source other draft value h

theorem impartial_optional {reader : Reader α} (hreader : reader.Impartial) (name : String) :
    (optional name reader).Impartial :=
  impartial_withDefault hreader.option name none

theorem visit_other {known : List Field} {source other : Source}
    (hcheck : ∀ field ∈ known, ∀ draft, field.check source draft = .ok () →
      field.check other draft = .ok ())
    {fields : List (Option String × Draft)} {seen : List String}
    (h : visit known source seen fields = .ok ()) : visit known other seen fields = .ok () := by
  induction fields generalizing seen with
  | nil => rfl
  | cons entry rest ih =>
    obtain ⟨name, draft⟩ := entry
    cases name with
    | none => cases h
    | some name =>
      rw [visit] at h ⊢
      cases hfind : known.find? (·.name = name) with
      | none =>
        simp only [hfind] at h ⊢
        by_cases hwhole : draft.isWhole
        · rw [if_pos hwhole] at h ⊢
          exact ih h
        · rw [if_neg hwhole] at h
          cases h
      | some field =>
        simp only [hfind] at h ⊢
        by_cases hseen : name ∈ seen
        · simp only [hseen, if_true] at h
          cases h
        · simp only [hseen, if_false] at h ⊢
          obtain ⟨⟨⟩, hpass, hrest⟩ := bind_eq_ok.mp h
          refine bind_eq_ok.mpr ⟨(), hcheck field (List.mem_of_find?_eq_some hfind) draft hpass, ?_⟩
          exact ih hrest

theorem assign_other {record : String} {source other : Source} {count : Nat} {known : List Field}
    (hcheck : ∀ field ∈ known, ∀ draft, field.check source draft = .ok () →
      field.check other draft = .ok ())
    {position : Nat} {items : List Draft} {given : List (String × Draft)}
    (h : assign record source count position known items = .ok given) :
    assign record other count position known items = .ok given := by
  induction known generalizing position items given with
  | nil =>
    cases items with
    | nil => exact h
    | cons item rest => cases h
  | cons field rest ih =>
    have hrest : ∀ field ∈ rest, ∀ draft, field.check source draft = .ok () →
        field.check other draft = .ok () :=
      fun field hfield => hcheck field (List.mem_cons_of_mem _ hfield)
    cases items with
    | nil =>
      rw [assign] at h ⊢
      by_cases hrequired : field.required = true
      · rw [if_pos hrequired] at h
        cases h
      · rw [if_neg hrequired] at h ⊢
        exact ih hrest h
    | cons item items =>
      rw [assign] at h ⊢
      obtain ⟨⟨⟩, hpass, h⟩ := bind_eq_ok.mp h
      obtain ⟨others, hothers, h⟩ := bind_eq_ok.mp h
      exact bind_eq_ok.mpr ⟨(), hcheck field List.mem_cons_self item hpass,
        bind_eq_ok.mpr ⟨others, ih hrest hothers, h⟩⟩

theorem Impartial.read {record : Record α} (h : record.Impartial) (label : String) :
    Reader.Impartial (read label record) := by
  intro source other draft value hread
  have hcheck : ∀ field ∈ record.fields, ∀ draft, field.check source draft = .ok () →
      field.check other draft = .ok () :=
    fun field hfield => h.check field hfield source other
  cases draft with
  | obj fields =>
    obtain ⟨⟨⟩, hvisit, hbuild⟩ := bind_eq_ok.mp hread
    exact bind_eq_ok.mpr ⟨(), visit_other hcheck hvisit, h.build source other _ value hbuild⟩
  | arr items =>
    obtain ⟨given, hassign, hbuild⟩ := bind_eq_ok.mp hread
    exact bind_eq_ok.mpr ⟨given, assign_other hcheck hassign, h.build source other _ value hbuild⟩
  | _ => exact hread

/-- A record that is read from an object is put together from what the object says. -/
theorem build_of_read {record : Record α} {label : String} {source : Source}
    {fields : List (String × Json)} {value : α}
    (h : read label record source (Json.obj fields).toDraft = .ok value) :
    record.build source (fun name => (fields.lookup name).map toDraft) = .ok value := by
  rw [toDraft, fieldDrafts_eq] at h
  obtain ⟨⟨⟩, -, hbuild⟩ := bind_eq_ok.mp h
  simpa only [lookup_drafts] using hbuild

end Record

end TunnelChain.Json

import Mathlib.Data.List.Perm.Basic
import TunnelChain.Json.Record
import TunnelChain.Proofs.Json.Parsing
import TunnelChain.Proofs.Table

/-!
# Reading what was written

A record is read from an object whenever each of its fields is read from the value under its name,
in whatever order the fields stand and whatever other fields there are.
-/

namespace TunnelChain.Json

/-! ## Fields in order -/

section Fields

variable {α : Type} {name : String} {value : α} {fields others : List (String × α)}

theorem insertField_perm (hname : name ∉ fields.map (·.1)) (value : α) :
    (insertField name value fields).Perm ((name, value) :: fields) := by
  induction fields with
  | nil => exact .refl _
  | cons field rest ih =>
    obtain ⟨other, old⟩ := field
    rw [List.map_cons, List.mem_cons, not_or] at hname
    unfold insertField
    rw [if_neg hname.1]
    split
    · exact .refl _
    · exact (List.Perm.cons (other, old) (ih hname.2)).trans (.swap _ _ _)

theorem foldl_insertField_perm (done : List (String × α))
    (hnodup : ((fields ++ done).map (·.1)).Nodup) :
    (fields.foldl (fun done field => insertField field.1 field.2 done) done).Perm
      (fields ++ done) := by
  induction fields generalizing done with
  | nil => exact .refl _
  | cons field rest ih =>
    have hperm : (rest ++ insertField field.1 field.2 done).Perm (field :: rest ++ done) := by
      have hname : field.1 ∉ done.map (·.1) := by
        rw [List.cons_append, List.map_cons, List.nodup_cons, List.map_append,
          List.mem_append] at hnodup
        exact fun hmem => hnodup.1 (.inr hmem)
      exact ((insertField_perm hname field.2).append_left rest).trans List.perm_middle
    rw [List.foldl_cons]
    exact (ih _ ((hperm.map _).nodup_iff.mpr hnodup)).trans hperm

theorem sortFields_perm (hnodup : (fields.map (·.1)).Nodup) : (sortFields fields).Perm fields := by
  have hperm := foldl_insertField_perm [] (by rwa [List.append_nil])
  rwa [List.append_nil] at hperm

theorem lookup_eq_some_iff (hnodup : (fields.map (·.1)).Nodup) :
    fields.lookup name = some value ↔ (name, value) ∈ fields := by
  induction fields with
  | nil => simp
  | cons field rest ih =>
    obtain ⟨other, old⟩ := field
    rw [List.map_cons, List.nodup_cons] at hnodup
    rw [lookup_cons_ite, List.mem_cons, Prod.mk.injEq]
    by_cases hname : name = other
    · subst hname
      have hrest : (name, value) ∉ rest := fun hmem => hnodup.1 (List.mem_map.mpr ⟨_, hmem, rfl⟩)
      simp [hrest, eq_comm]
    · simp [hname, ih hnodup.2]

theorem lookup_of_perm (hnodup : (fields.map (·.1)).Nodup) (h : others.Perm fields)
    (name : String) :
    others.lookup name = fields.lookup name := by
  have hnodup' := (h.map (·.1)).nodup_iff.mpr hnodup
  ext value
  rw [lookup_eq_some_iff hnodup, lookup_eq_some_iff hnodup', h.mem_iff]

end Fields

section Sorted

variable {fields : List (String × Json)} (hnodup : (fields.map (·.1)).Nodup)

include hnodup

theorem nodup_names_sortedFields : ((sorted.sortedFields fields).map (·.1)).Nodup := by
  rw [sortedFields_eq, List.map_map]
  exact hnodup

theorem nodup_sorted : ((sortFields (sorted.sortedFields fields)).map (·.1)).Nodup := by
  have hnames := nodup_names_sortedFields hnodup
  exact ((sortFields_perm hnames).map (·.1)).nodup_iff.mpr hnames

theorem lookup_sorted (name : String) :
    (sortFields (sorted.sortedFields fields)).lookup name = (fields.lookup name).map sorted := by
  have hnames := nodup_names_sortedFields hnodup
  rw [lookup_of_perm hnames (sortFields_perm hnames), sortedFields_eq, lookup_map_snd]

theorem field?_sorted (name : String) :
    (Json.obj fields).sorted.field? name = (fields.lookup name).map sorted :=
  lookup_sorted hnodup name

end Sorted

theorem lookup_drafts (fields : List (String × Json)) (name : String) :
    (fields.map fun field => (some field.1, field.2.toDraft)).lookup (some name) =
      (fields.lookup name).map toDraft := by
  induction fields with
  | nil => rfl
  | cons field rest ih =>
    obtain ⟨other, item⟩ := field
    rw [List.map_cons, lookup_cons_ite, lookup_cons_ite, ih]
    by_cases hname : name = other <;> simp [hname]

mutual

theorem isWhole_toDraft : ∀ value : Json, value.toDraft.isWhole = true
  | .null => rfl
  | .bool _ => rfl
  | .num _ => rfl
  | .str _ => rfl
  | .arr items => wholeItems_drafts items
  | .obj fields => wholeFields_drafts fields

theorem wholeItems_drafts : ∀ items, Draft.isWhole.wholeItems (toDraft.drafts items) = true
  | [] => rfl
  | item :: rest => Bool.and_eq_true_iff.mpr ⟨isWhole_toDraft item, wholeItems_drafts rest⟩

theorem wholeFields_drafts :
    ∀ fields, Draft.isWhole.wholeFields (toDraft.fieldDrafts fields) = true
  | [] => rfl
  | (_, item) :: rest => Bool.and_eq_true_iff.mpr ⟨isWhole_toDraft item, wholeFields_drafts rest⟩

end

/-- Whether a reader gives back what has been written and parsed. -/
def Reader.Inverts {α : Type} (reader : Reader α) (write : α → Json) : Prop :=
  ∀ source value, reader source (write value).sorted.toDraft = .ok value

/-! ## Records -/

namespace Record

variable {α β : Type} {name : String} {source : Source} {given : String → Option Draft}
  {fields : List (String × Json)}

/-- Whether a record is only put together from values that pass the checks of their fields. -/
def Sound (record : Record α) : Prop :=
  ∀ source given value, record.build source given = .ok value →
    ∀ field ∈ record.fields, ∀ draft, given field.name = some draft →
    field.check source draft = .ok ()

theorem sound_pure (value : α) : (pure value : Record α).Sound := by
  intro source given _ _ field hfield
  cases hfield

theorem build_seq_ok {builder : Record (α → β)} {rest : Record α} {value : β}
    (h : (builder <*> rest).build source given = .ok value) :
    ∃ f input, builder.build source given = .ok f ∧ rest.build source given = .ok input ∧
      f input = value := by
  change (do
    let build ← builder.build source given
    let value ← rest.build source given
    pure (build value)) = _ at h
  cases hf : builder.build source given with
  | error fault => simp [hf, bind, Except.bind] at h
  | ok f =>
    cases hinput : rest.build source given with
    | error fault => simp [hf, hinput, bind, Except.bind] at h
    | ok input =>
      simp only [hf, hinput, bind, Except.bind, pure, Except.pure, Except.ok.injEq] at h
      exact ⟨f, input, rfl, rfl, h⟩

theorem Sound.seq {builder : Record (α → β)} {rest : Record α} (hbuilder : builder.Sound)
    (hrest : rest.Sound) : (builder <*> rest).Sound := by
  intro source given value h field hfield
  obtain ⟨f, input, hf, hinput, -⟩ := build_seq_ok h
  rcases List.mem_append.mp hfield with hmem | hmem
  · exact hbuilder source given f hf field hmem
  · exact hrest source given input hinput field hmem

theorem Sound.map {record : Record α} (h : record.Sound) (f : α → β) : (f <$> record).Sound :=
  (sound_pure f).seq h

theorem sound_required (name : String) (reader : Reader α) : (required name reader).Sound := by
  intro source given value h field hfield draft hdraft
  cases List.mem_singleton.mp hfield
  simp only [required, hdraft] at h
  simp only [h, Except.map]

theorem sound_withDefault (name : String) (default : α) (reader : Reader α) :
    (withDefault name default reader).Sound := by
  intro source given value h field hfield draft hdraft
  cases List.mem_singleton.mp hfield
  simp only [withDefault, hdraft] at h
  simp only [h, Except.map]

theorem sound_optional (name : String) (reader : Reader α) : (optional name reader).Sound :=
  sound_withDefault name none (Reader.option reader)

/-- What an object gives for a name once it has been written and parsed. -/
def written (fields : List (String × Json)) (name : String) : Option Draft :=
  (fields.lookup name).map fun item => item.sorted.toDraft

theorem build_required {reader : Reader α} {write : α → Json} (h : reader.Inverts write) {value : α}
    (hlookup : fields.lookup name = some (write value)) :
    (required name reader).build source (written fields) = .ok value := by
  have hgiven : written fields name = some (write value).sorted.toDraft := by
    rw [written, hlookup, Option.map_some]
  simp only [required, hgiven, h source value]

theorem option_of_ne_null {draft : Draft} (h : draft ≠ .null) (reader : Reader α) :
    Reader.option reader source draft = (reader source draft).map some := by
  cases draft with
  | null => exact absurd rfl h
  | _ => rfl

theorem build_optional {reader : Reader α} {write : α → Json} (h : reader.Inverts write)
    (hnull : ∀ value, (write value).sorted.toDraft ≠ .null) {option : Option α}
    (hlookup : fields.lookup name = option.map write) :
    (optional name reader).build source (written fields) = .ok option := by
  cases option with
  | none =>
    have hgiven : written fields name = none := by
      rw [written, hlookup, Option.map_none, Option.map_none]
    simp only [optional, withDefault, hgiven]
  | some value =>
    have hgiven : written fields name = some (write value).sorted.toDraft := by
      rw [written, hlookup, Option.map_some, Option.map_some]
    simp only [optional, withDefault, hgiven, option_of_ne_null (hnull value), h source value,
      Except.map]

theorem build_seq {builder : Record (α → β)} {rest : Record α} {f : α → β} {input : α}
    (hbuilder : builder.build source given = .ok f) (hrest : rest.build source given = .ok input) :
    (builder <*> rest).build source given = .ok (f input) := by
  change (do
    let build ← builder.build source given
    let value ← rest.build source given
    pure (build value)) = _
  rw [hbuilder, hrest]
  rfl

theorem build_map {record : Record α} {input : α} (f : α → β)
    (h : record.build source given = .ok input) :
    (f <$> record).build source given = .ok (f input) :=
  build_seq rfl h

theorem visit_fields {known : List Field} {seen : List String}
    (hnodup : (fields.map (·.1)).Nodup) (hseen : ∀ field ∈ fields, field.1 ∉ seen)
    (hcheck : ∀ field ∈ known, ∀ item, (field.name, item) ∈ fields →
      field.check source item.toDraft = .ok ()) :
    visit known source seen (fields.map fun field => (some field.1, field.2.toDraft)) = .ok () := by
  induction fields generalizing seen with
  | nil => rfl
  | cons entry rest ih =>
    obtain ⟨name, item⟩ := entry
    rw [List.map_cons, List.nodup_cons] at hnodup
    have hrest (seen : List String) (hseen : ∀ field ∈ rest, field.1 ∉ seen) :=
      ih hnodup.2 hseen fun field hfield other hmem =>
        hcheck field hfield other (List.mem_cons_of_mem _ hmem)
    rw [List.map_cons, visit]
    cases hfind : known.find? (·.name = name) with
    | none =>
      dsimp only
      rw [if_pos (isWhole_toDraft item)]
      exact hrest seen fun field hfield => hseen field (List.mem_cons_of_mem _ hfield)
    | some field =>
      have hname : field.name = name := by simpa using List.find?_some hfind
      have hpass : field.check source item.toDraft = .ok () :=
        hcheck field (List.mem_of_find?_eq_some hfind) item (by simp [hname])
      have hfresh : name ∉ seen := hseen (name, item) List.mem_cons_self
      have hnext := hrest (name :: seen) fun field hfield => by
        rw [List.mem_cons, not_or]
        refine ⟨?_, hseen field (List.mem_cons_of_mem _ hfield)⟩
        rintro rfl
        exact hnodup.1 (List.mem_map.mpr ⟨_, hfield, rfl⟩)
      simp only [hfresh, if_false, hpass, hnext]
      rfl

/-- A record is read from the fields of an object, in any order, when each has a name of its own. -/
theorem read_distinct {record : Record α} (hsound : record.Sound) {value : α} (label : String)
    (hnodup : (fields.map (·.1)).Nodup)
    (hbuild : record.build source (fun name => (fields.lookup name).map toDraft) = .ok value) :
    read label record source (Json.obj fields).toDraft = .ok value := by
  have hvisit : visit record.fields source [] (fields.map
      fun field => (some field.1, field.2.toDraft)) = .ok () := by
    refine visit_fields hnodup (fun _ _ => List.not_mem_nil) fun field hfield item hitem => ?_
    refine hsound source _ value hbuild field hfield item.toDraft ?_
    rw [(lookup_eq_some_iff hnodup).mpr hitem, Option.map_some]
  rw [toDraft, fieldDrafts_eq, read, hvisit]
  simp only [lookup_drafts]
  exact hbuild

/-- A record is read from the fields of an object that was written and parsed. -/
theorem read_sorted {record : Record α} (hsound : record.Sound) {value : α} (label : String)
    (hnodup : (fields.map (·.1)).Nodup)
    (hbuild : record.build source (written fields) = .ok value) :
    read label record source (Json.obj fields).sorted.toDraft = .ok value := by
  refine read_distinct hsound label (nodup_sorted hnodup) ?_
  have hgiven : (fun name => ((sortFields (sorted.sortedFields fields)).lookup name).map toDraft) =
      written fields := by
    funext name
    rw [lookup_sorted hnodup, written, Option.map_map]
    rfl
  rw [hgiven]
  exact hbuild

end Record

/-! ## Plain values -/

namespace Reader

variable {α : Type} {reader : Reader α} {write : α → Json}

theorem inverts_text : text.Inverts .str := fun _ _ => rfl

theorem inverts_flag : flag.Inverts .bool := fun _ _ => rfl

theorem natural_of_lt (expected : String) {bound n : Nat} (h : n < bound) (source : Source) :
    natural expected bound source (.num (.int n)) = .ok n := by
  have hbounds : (0 : Int) ≤ n ∧ (n : Int) < bound := ⟨Int.natCast_nonneg n, Int.ofNat_lt.mpr h⟩
  simp only [natural, if_pos hbounds, Int.toNat_natCast]

theorem inverts_natural16 : natural16.Inverts fun n => .num (.int n.toNat) := by
  intro source n
  have hread := natural_of_lt "u16" (UInt16.toNat_lt_size n) source
  change (natural "u16" UInt16.size source (.num (.int n.toNat))).map UInt16.ofNat = .ok n
  rw [hread]
  exact congrArg Except.ok UInt16.ofNat_toNat

theorem inverts_natural32 : natural32.Inverts fun n => .num (.int n.toNat) := by
  intro source n
  have hread := natural_of_lt "u32" (UInt32.toNat_lt_size n) source
  change (natural "u32" UInt32.size source (.num (.int n.toNat))).map UInt32.ofNat = .ok n
  rw [hread]
  exact congrArg Except.ok UInt32.ofNat_toNat

theorem inverts_natural64 : natural64.Inverts fun n => .num (.int n.toNat) := by
  intro source n
  have hread := natural_of_lt "u64" (UInt64.toNat_lt_size n) source
  change (natural "u64" UInt64.size source (.num (.int n.toNat))).map UInt64.ofNat = .ok n
  rw [hread]
  exact congrArg Except.ok UInt64.ofNat_toNat

theorem Inverts.list (h : reader.Inverts write) :
    (list reader).Inverts fun values => .arr (values.map write) := by
  intro source values
  have hitems : (values.map fun value => (write value).sorted.toDraft).mapM (reader source) =
      .ok values := by
    induction values with
    | nil => rfl
    | cons value rest ih =>
      rw [List.map_cons, List.mapM_cons, h source value, ih]
      rfl
  dsimp only
  rw [sorted, sortedItems_eq, toDraft, drafts_eq, List.map_map, List.map_map]
  exact hitems

end Reader

end TunnelChain.Json

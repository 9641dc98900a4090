import TunnelChain.Json.Draft
import TunnelChain.Proofs.Json.Lexing

/-!
# Parsing what was written

The text of a value is read as the draft of this value, so it parses as the value itself, but for
the order of the fields.
-/

namespace TunnelChain.Json

/-- Whether a value is read back as it was written: its numbers are integers of 64 bits, and it
nests at most `depth` arrays and objects. -/
inductive Faithful : Nat → Json → Prop where
  | null (depth : Nat) : Faithful depth .null
  | bool (depth : Nat) (value : Bool) : Faithful depth (.bool value)
  | int (depth : Nat) {value : Int} (hlow : -2 ^ 63 ≤ value) (hhigh : value < 2 ^ 64) :
      Faithful depth (.num (.int value))
  | str (depth : Nat) (value : String) : Faithful depth (.str value)
  | arr {depth : Nat} {items : List Json} (hitems : ∀ item ∈ items, Faithful depth item) :
      Faithful (depth + 1) (.arr items)
  | obj {depth : Nat} {fields : List (String × Json)}
      (hfields : ∀ field ∈ fields, Faithful depth field.2) :
      Faithful (depth + 1) (.obj fields)

/-- The value with the fields of each object as they stand once they have been read. -/
def sorted : Json → Json
  | .null => .null
  | .bool value => .bool value
  | .num value => .num value
  | .str value => .str value
  | .arr items => .arr (sortedItems items)
  | .obj fields => .obj (sortFields (sortedFields fields))
where
  sortedItems : List Json → List Json
    | [] => []
    | item :: rest => item.sorted :: sortedItems rest
  sortedFields : List (String × Json) → List (String × Json)
    | [] => []
    | (name, item) :: rest => (name, item.sorted) :: sortedFields rest

theorem sortedItems_eq (items : List Json) : sorted.sortedItems items = items.map sorted := by
  induction items with
  | nil => rfl
  | cons item rest ih => rw [sorted.sortedItems, ih, List.map_cons]

theorem sortedFields_eq (fields : List (String × Json)) :
    sorted.sortedFields fields = fields.map fun field => (field.1, field.2.sorted) := by
  induction fields with
  | nil => rfl
  | cons field rest ih => rw [sorted.sortedFields, ih, List.map_cons]

theorem drafts_eq (items : List Json) : toDraft.drafts items = items.map toDraft := by
  induction items with
  | nil => rfl
  | cons item rest ih => rw [toDraft.drafts, ih, List.map_cons]

theorem fieldDrafts_eq (fields : List (String × Json)) :
    toDraft.fieldDrafts fields = fields.map fun field => (some field.1, field.2.toDraft) := by
  induction fields with
  | nil => rfl
  | cons field rest ih => rw [toDraft.fieldDrafts, ih, List.map_cons]

theorem readWord_append (word : String) (token : Token) (rest : List Char) :
    readWord word token (word.toList ++ rest) = (token, rest) := by
  have hprefix : word.toList.isPrefixOf (word.toList ++ rest) = true :=
    List.isPrefixOf_iff_prefix.mpr (List.prefix_append _ _)
  rw [readWord, if_pos hprefix, ← String.length_toList, List.drop_left]

namespace Draft.Builder

def run (builder : Builder) (text : List Char) : Builder :=
  (tokens text).foldl step builder

theorem run_cons {c : Char} (h : isSpace c = false) (builder : Builder) (rest : List Char) :
    builder.run (c :: rest) = (builder.step (Token.read c rest).1).run (Token.read c rest).2 := by
  rw [run, tokens, if_neg (by simp [h])]
  rfl

variable {frames : List Frame} {expect : Expect}

theorem step_value (hexpect : expect = .value ∨ expect = .firstItem) {token : Token}
    (htoken : token ≠ .closeArray) :
    step (.reading frames expect) token = readValue frames token := by
  rcases hexpect with rfl | rfl
  · rfl
  · cases token with
    | closeArray => exact absurd rfl htoken
    | _ => rfl

/-- The state after the text of a value: whatever follows, the value has been added to the innermost
frame. -/
def Delivers (value : Json) : Prop :=
  ∀ frames expect rest, (expect = .value ∨ expect = .firstItem) → Halts rest →
    run (.reading frames expect) (value.chars ++ rest) = run (deliver value.toDraft frames) rest

theorem halts_comma (rest : List Char) : Halts (',' :: rest) :=
  halts_cons rfl (by decide) (by decide) (by decide) rest

theorem halts_closeArray (rest : List Char) : Halts (']' :: rest) :=
  halts_cons rfl (by decide) (by decide) (by decide) rest

theorem halts_closeObject (rest : List Char) : Halts ('\x7d' :: rest) :=
  halts_cons rfl (by decide) (by decide) (by decide) rest

theorem run_itemsText {items : List Json} (hne : items ≠ [])
    (hitems : ∀ item ∈ items, Delivers item) (done : List Draft)
    (hexpect : expect = .value ∨ expect = .firstItem) (rest : List Char) :
    run (.reading (.array done :: frames) expect) (chars.itemsText items ++ rest) =
      run (deliver (.arr (done.reverse ++ items.map toDraft)) frames) rest := by
  induction items generalizing done expect with
  | nil => exact absurd rfl hne
  | cons item items ih =>
    have hitem := hitems item List.mem_cons_self
    cases items with
    | nil =>
      rw [chars.itemsText, List.append_assoc, List.singleton_append,
        hitem _ _ _ hexpect (halts_closeArray rest), deliver, run_cons rfl]
      have hstep :
          step (.reading (.array (item.toDraft :: done) :: frames) .separator) .closeArray =
            deliver (.arr (item.toDraft :: done).reverse) frames := rfl
      rw [List.reverse_cons] at hstep
      exact congrArg (run · rest) hstep
    | cons next items =>
      have hrest := ih (List.cons_ne_nil _ _)
        (fun other hother => hitems other (List.mem_cons_of_mem _ hother)) (item.toDraft :: done)
        (.inl rfl)
      rw [List.reverse_cons, List.append_assoc] at hrest
      rw [chars.itemsText, List.append_assoc, List.cons_append,
        hitem _ _ _ hexpect (halts_comma _), deliver, run_cons rfl]
      · exact hrest
      · exact List.cons_ne_nil _ _

theorem run_name (hexpect : expect = .name ∨ expect = .firstName)
    (fields : List (Option String × Draft)) (key : Option String) (name : String)
    (rest : List Char) :
    run (.reading (.object fields key :: frames) expect) (stringText name ++ ':' :: rest) =
      run (.reading (.object fields (some name) :: frames) .value) rest := by
  have hstep : step (.reading (.object fields key :: frames) expect) (.str (some name)) =
      .reading (.object fields (some name) :: frames) .colon := by
    rcases hexpect with rfl | rfl <;> rfl
  rw [stringText_append, run_cons rfl, read_stringText, hstep, run_cons rfl]
  rfl

theorem run_fieldsText {fields : List (String × Json)} (hne : fields ≠ [])
    (hfields : ∀ field ∈ fields, Delivers field.2) (done : List (Option String × Draft))
    (key : Option String) (hexpect : expect = .name ∨ expect = .firstName) (rest : List Char) :
    run (.reading (.object done key :: frames) expect) (chars.fieldsText fields ++ rest) =
      run (deliver (.obj (done.reverse ++ fields.map fun field => (some field.1, field.2.toDraft)))
        frames) rest := by
  induction fields generalizing done key expect with
  | nil => exact absurd rfl hne
  | cons field fields ih =>
    obtain ⟨name, item⟩ := field
    have hitem : Delivers item := hfields (name, item) List.mem_cons_self
    cases fields with
    | nil =>
      rw [chars.fieldsText, List.append_assoc, List.append_assoc, List.cons_append,
        List.singleton_append, run_name hexpect, hitem _ _ _ (.inl rfl) (halts_closeObject rest),
        deliver, run_cons rfl]
      have hstep : step (.reading (.object ((some name, item.toDraft) :: done) none :: frames)
          .separator) .closeObject =
          deliver (.obj ((some name, item.toDraft) :: done).reverse) frames := rfl
      rw [List.reverse_cons] at hstep
      exact congrArg (run · rest) hstep
    | cons next fields =>
      have hrest := ih (List.cons_ne_nil _ _)
        (fun other hother => hfields other (List.mem_cons_of_mem _ hother))
        ((some name, item.toDraft) :: done) none (.inl rfl)
      rw [List.reverse_cons, List.append_assoc] at hrest
      rw [chars.fieldsText, List.append_assoc, List.append_assoc, List.cons_append,
        List.cons_append, run_name hexpect, hitem _ _ _ (.inl rfl) (halts_comma _), deliver,
        run_cons rfl]
      · exact hrest
      · exact List.cons_ne_nil _ _

theorem run_word (hexpect : expect = .value ∨ expect = .firstItem) (c : Char) (word : String)
    (token : Token) (value : Draft) (rest : List Char) (hspace : isSpace c = false)
    (hread : ∀ text, Token.read c text = readWord word token text) (htoken : token ≠ .closeArray)
    (hvalue : readValue frames token = deliver value frames) :
    run (.reading frames expect) (c :: (word.toList ++ rest)) =
      run (deliver value frames) rest := by
  rw [run_cons hspace, hread, readWord_append, step_value hexpect htoken, hvalue]

theorem delivers {depth : Nat} {value : Json} (h : Faithful depth value) : Delivers value := by
  induction h with
  | null depth =>
    intro frames expect rest hexpect _
    exact run_word hexpect 'n' "ull" .null .null rest rfl (fun _ => rfl) Token.noConfusion rfl
  | bool depth value =>
    intro frames expect rest hexpect _
    cases value with
    | true =>
      exact run_word hexpect 't' "rue" (.bool true) (.bool true) rest rfl (fun _ => rfl)
        Token.noConfusion rfl
    | false =>
      exact run_word hexpect 'f' "alse" (.bool false) (.bool false) rest rfl (fun _ => rfl)
        Token.noConfusion rfl
  | int depth hlow hhigh =>
    intro frames expect rest hexpect hhalts
    obtain ⟨c, text, htext, hspace, hread⟩ := read_numberText hlow hhigh hhalts
    rw [chars, htext, List.cons_append, run_cons hspace, hread,
      step_value hexpect Token.noConfusion]
    rfl
  | str depth value =>
    intro frames expect rest hexpect _
    rw [chars, stringText_append, run_cons rfl, read_stringText,
      step_value hexpect Token.noConfusion]
    rfl
  | @arr depth items hitems ih =>
    intro frames expect rest hexpect _
    have hopen : Token.read '[' (chars.itemsText items ++ rest) =
        (.openArray, chars.itemsText items ++ rest) := rfl
    rw [chars, List.cons_append, run_cons rfl, hopen, step_value hexpect Token.noConfusion,
      readValue, toDraft, drafts_eq]
    cases items with
    | nil =>
      rw [chars.itemsText, List.singleton_append, run_cons rfl]
      rfl
    | cons item items => exact run_itemsText (List.cons_ne_nil _ _) ih [] (.inr rfl) rest
  | @obj depth fields hfields ih =>
    intro frames expect rest hexpect _
    have hopen : Token.read '\x7b' (chars.fieldsText fields ++ rest) =
        (.openObject, chars.fieldsText fields ++ rest) := rfl
    rw [chars, List.cons_append, run_cons rfl, hopen, step_value hexpect Token.noConfusion,
      readValue, toDraft, fieldDrafts_eq]
    cases fields with
    | nil =>
      rw [chars.fieldsText, List.singleton_append, run_cons rfl]
      rfl
    | cons field fields => exact run_fieldsText (List.cons_ne_nil _ _) ih [] none (.inr rfl) rest

end Draft.Builder

namespace Draft

theorem items?_eq {depth : Nat} {items : List Json}
    (hitems : ∀ item ∈ items, item.toDraft.toJson? depth = some item.sorted) :
    toJson?.items? depth (items.map Json.toDraft) = some (items.map Json.sorted) := by
  induction items with
  | nil => rfl
  | cons item items ih =>
    have hrest := ih fun other hother => hitems other (List.mem_cons_of_mem _ hother)
    rw [List.map_cons, toJson?.items?, hitems item List.mem_cons_self, hrest]
    rfl

theorem fields?_eq {depth : Nat} {fields : List (String × Json)}
    (hfields : ∀ field ∈ fields, field.2.toDraft.toJson? depth = some field.2.sorted) :
    toJson?.fields? depth (fields.map fun field => (some field.1, field.2.toDraft)) =
      some (fields.map fun field => (field.1, field.2.sorted)) := by
  induction fields with
  | nil => rfl
  | cons field fields ih =>
    have hrest := ih fun other hother => hfields other (List.mem_cons_of_mem _ hother)
    rw [List.map_cons, toJson?.fields?, hfields field List.mem_cons_self, hrest]
    rfl

theorem toJson?_toDraft {depth : Nat} {value : Json} (h : Faithful depth value) :
    value.toDraft.toJson? depth = some value.sorted := by
  induction h with
  | null depth => rfl
  | bool depth value => rfl
  | int depth hlow hhigh => rfl
  | str depth value => rfl
  | @arr depth items hitems ih =>
    rw [Json.toDraft, drafts_eq, toJson?, if_neg (Nat.succ_ne_zero depth), Nat.add_sub_cancel,
      items?_eq ih, Option.map_some, Json.sorted, sortedItems_eq]
  | @obj depth fields hfields ih =>
    rw [Json.toDraft, fieldDrafts_eq, toJson?, if_neg (Nat.succ_ne_zero depth), Nat.add_sub_cancel,
      fields?_eq ih, Option.map_some, Json.sorted, sortedFields_eq]

end Draft

theorem Draft.Document.ofText_text {value : Json} (h : Faithful maxDepth value) :
    ofText value.text = ⟨value.toDraft, false⟩ := by
  have hrun : Draft.Builder.run .start value.chars = .done value.toDraft := by
    have hdelivers := Draft.Builder.delivers h [] .value [] (.inl rfl) halts_nil
    rw [List.append_nil] at hdelivers
    rw [Draft.Builder.start, hdelivers, Draft.Builder.run, tokens]
    rfl
  rw [ofText, ofTokens, text, String.toList_ofList, ← Draft.Builder.run, hrun]
  rfl

/-- **A written value parses as itself**, but for the order of its fields. -/
theorem parse?_text {value : Json} (h : Faithful maxDepth value) :
    parse? value.text = some value.sorted := by
  rw [parse?, Draft.Document.ofText_text h]
  exact Draft.toJson?_toDraft h

end TunnelChain.Json

import TunnelChain.Proofs.Json.Parsing

/-!
# One line for each value

Line feeds are escaped within strings and stand nowhere else, so a written value is one line.
-/

namespace TunnelChain.Json

theorem hexDigit_ne_lineFeed : ∀ n < 16, hexDigit n ≠ '\n' := by
  decide

theorem lineFeed_notMem_escapeChar (c : Char) : '\n' ∉ escapeChar c := by
  unfold escapeChar
  split
  case h_8 _ _ hline _ _ _ _ =>
    split
    · rename_i hcontrol
      have hhigh := (hexDigit_ne_lineFeed (c.toNat / 16) (by omega)).symm
      have hlow := (hexDigit_ne_lineFeed (c.toNat % 16) (by omega)).symm
      simp [hhigh, hlow]
    · rw [List.mem_singleton]
      exact fun heq => hline heq.symm
  all_goals decide

theorem lineFeed_notMem_stringText (text : String) : '\n' ∉ stringText text := by
  intro hmem
  rw [stringText, List.cons_append, List.mem_cons, List.mem_append, List.mem_singleton] at hmem
  rcases hmem with hquote | hbody | hquote
  · exact absurd hquote (by decide)
  · obtain ⟨c, -, hc⟩ := List.mem_flatMap.mp hbody
    exact lineFeed_notMem_escapeChar c hc
  · exact absurd hquote (by decide)

theorem lineFeed_notMem_toDigits (n : Nat) : '\n' ∉ Nat.toDigits 10 n := by
  intro hmem
  have hdigit := Decimal.isDigit_of_mem_toDigits hmem
  exact absurd hdigit (by decide)

theorem lineFeed_notMem_numberText (value : Int) : '\n' ∉ numberText (.int value) := by
  cases value with
  | ofNat n =>
    have htext : numberText (.int (Int.ofNat n)) = Nat.toDigits 10 n := toList_toString_nat n
    rw [htext]
    exact lineFeed_notMem_toDigits n
  | negSucc n =>
    rw [numberText_negSucc, List.mem_cons, not_or]
    exact ⟨by decide, lineFeed_notMem_toDigits (n + 1)⟩

theorem lineFeed_notMem_itemsText {items : List Json} (h : ∀ item ∈ items, '\n' ∉ item.chars) :
    '\n' ∉ chars.itemsText items := by
  induction items with
  | nil => decide
  | cons item rest ih =>
    have hrest := ih fun other hother => h other (List.mem_cons_of_mem _ hother)
    have hitem := h item List.mem_cons_self
    cases rest with
    | nil => simp [chars.itemsText, hitem]
    | cons next rest => simp [chars.itemsText, hitem, hrest]

theorem lineFeed_notMem_fieldsText {fields : List (String × Json)}
    (h : ∀ field ∈ fields, '\n' ∉ field.2.chars) : '\n' ∉ chars.fieldsText fields := by
  induction fields with
  | nil => decide
  | cons field rest ih =>
    have hrest := ih fun other hother => h other (List.mem_cons_of_mem _ hother)
    have hfield := h field List.mem_cons_self
    have hname := lineFeed_notMem_stringText field.1
    cases rest with
    | nil => simp [chars.fieldsText, hname, hfield]
    | cons next rest => simp [chars.fieldsText, hname, hfield, hrest]

theorem lineFeed_notMem_chars {depth : Nat} {value : Json} (h : Faithful depth value) :
    '\n' ∉ value.chars := by
  induction h with
  | null depth => decide
  | bool depth value => cases value <;> decide
  | int depth hlow hhigh => exact lineFeed_notMem_numberText _
  | str depth value => exact lineFeed_notMem_stringText value
  | arr hitems ih =>
    rw [chars, List.mem_cons, not_or]
    exact ⟨by decide, lineFeed_notMem_itemsText ih⟩
  | obj hfields ih =>
    rw [chars, List.mem_cons, not_or]
    exact ⟨by decide, lineFeed_notMem_fieldsText ih⟩

theorem chars_obj (fields : List (String × Json)) :
    ∃ inner, (Json.obj fields).chars = '\x7b' :: inner ++ ['\x7d'] := by
  have hfields : ∃ inner, chars.fieldsText fields = inner ++ ['\x7d'] := by
    induction fields with
    | nil => exact ⟨[], rfl⟩
    | cons field rest ih =>
      obtain ⟨inner, hinner⟩ := ih
      cases rest with
      | nil => exact ⟨stringText field.1 ++ ':' :: field.2.chars, by simp [chars.fieldsText]⟩
      | cons next rest =>
        refine ⟨stringText field.1 ++ ':' :: field.2.chars ++ ',' :: inner, ?_⟩
        simp [chars.fieldsText, hinner]
  obtain ⟨inner, hinner⟩ := hfields
  exact ⟨inner, by rw [chars, hinner]; rfl⟩

end TunnelChain.Json

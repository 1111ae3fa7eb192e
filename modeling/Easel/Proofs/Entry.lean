import Easel.Display
import Easel.Palette.Entry
import Easel.Proofs.Coloring

namespace Easel.Palette.Entry

open Unicode

-- The digits in base sixteen, each at the place of its value.
def lowerDigits : Text := "0123456789abcdef".toList
def upperDigits : Text := "0123456789ABCDEF".toList

def IsHexDigit (c : Char) (d : Nat) : Prop :=
  lowerDigits[d]? = some c ∨ upperDigits[d]? = some c

def IsHexByte (high low : Char) (b : UInt8) : Prop :=
  ∃ h l, IsHexDigit high h ∧ IsHexDigit low l ∧ b.toNat = 16 * h + l

inductive IsHexColor : Text → Color → Prop
  | intro : IsHexByte r₁ r₀ red → IsHexByte g₁ g₀ green → IsHexByte b₁ b₀ blue →
      IsHexColor ['#', r₁, r₀, g₁, g₀, b₁, b₀] ⟨red, green, blue⟩

structure IsName (name : Text) : Prop where
  nonempty : name ≠ []
  chars    : ∀ c ∈ name, isAlphanumeric c ∨ c = '_' ∨ c = '-'

-- A text that is an entry, and the name and the color in it.
structure Written (t name : Text) (color : Color) : Prop where
  named   : IsName name
  colored : ∃ hex, t.Trimmed (name ++ '=' :: hex) ∧ IsHexColor hex color

-- A color with its digits taken from those in either case.
def hexByte (digits : Text) (b : UInt8) : Text :=
  [digits.getD (b.toNat / 16) '0', digits.getD (b.toNat % 16) '0']

def hexColor (digits : Text) (color : Color) : Text :=
  '#' :: hexByte digits color.red ++ hexByte digits color.green ++ hexByte digits color.blue

section

variable {c : Char} {d : Nat} {digits : Text}

theorem IsHexDigit.lt (h : IsHexDigit c d) : d < 16 := by
  rcases h with h | h <;> exact (List.getElem?_eq_some_iff.mp h).choose

theorem hexDigit?_lowerDigits : ∀ d < 16, lowerDigits[d]?.bind hexDigit? = some d := by
  decide

theorem hexDigit?_upperDigits : ∀ d < 16, upperDigits[d]?.bind hexDigit? = some d := by
  decide

theorem lt_of_hexDigit? (h : hexDigit? c = some d) : c.toNat < 128 := by
  have hle {a b : Char} (h : a ≤ b) : a.toNat ≤ b.toNat := UInt32.le_iff_toNat_le.mp h
  unfold hexDigit? at h
  split at h
  case isTrue hc => exact (hle hc.right).trans_lt (by decide)
  case isFalse =>
    split at h
    case isTrue hc => exact (hle hc.right).trans_lt (by decide)
    case isFalse =>
      split at h
      case isTrue hc => exact (hle hc.right).trans_lt (by decide)
      case isFalse   => nomatch h

theorem hexDigit?_eq_some_iff : hexDigit? c = some d ↔ IsHexDigit c d := by
  constructor
  case mp =>
    intro h
    have hd : ∀ n < 128, ∀ d ∈ hexDigit? (Char.ofNat n),
      lowerDigits[d]? = some (Char.ofNat n) ∨ upperDigits[d]? = some (Char.ofNat n) := by decide
    have hc := hd c.toNat (lt_of_hexDigit? h)
    rw [Char.ofNat_toNat] at hc
    exact hc d h
  case mpr =>
    intro h
    have hl := h.lt
    rcases h with h | h
    · simpa [h] using hexDigit?_lowerDigits d hl
    · simpa [h] using hexDigit?_upperDigits d hl

theorem hexByte?_eq_some_iff {high low : Char} {b : UInt8} :
    hexByte? high low = some b ↔ IsHexByte high low b := by
  simp only [hexByte?, Option.bind_eq_bind, Option.bind_eq_some_iff, Option.pure_def,
    Option.some.injEq, hexDigit?_eq_some_iff]
  constructor
  case mp =>
    rintro ⟨h, hh, l, hl, rfl⟩
    have := hh.lt
    have := hl.lt
    exact ⟨h, l, hh, hl, UInt8.toNat_ofNat_of_lt' (by simp only [UInt8.size]; omega)⟩
  case mpr =>
    rintro ⟨h, l, hh, hl, hb⟩
    exact ⟨h, hh, l, hl, by rw [← hb, UInt8.ofNat_toNat]⟩

theorem hexColor?_eq_some_iff {hex : Text} {color : Color} :
    hexColor? hex = some color ↔ IsHexColor hex color := by
  constructor
  case mp =>
    intro h
    unfold hexColor? at h
    split at h
    case h_2 => contradiction
    case h_1 =>
      simp only [Option.bind_eq_bind, Option.bind_eq_some_iff, Option.pure_def, Option.some.injEq,
        hexByte?_eq_some_iff] at h
      obtain ⟨red, hr, green, hg, blue, hb, rfl⟩ := h
      exact .intro hr hg hb
  case mpr =>
    rintro ⟨hr, hg, hb⟩
    simp only [hexColor?, hexByte?_eq_some_iff.mpr hr, hexByte?_eq_some_iff.mpr hg,
      hexByte?_eq_some_iff.mpr hb]
    rfl

theorem IsHexDigit.visible (h : IsHexDigit c d) : ¬isWhiteSpace c := by
  have hd : (lowerDigits ++ upperDigits).all (!isWhiteSpace ·) := by decide
  have hm := List.mem_append.mpr (h.imp List.mem_of_getElem? List.mem_of_getElem?)
  simpa using List.all_eq_true.mp hd c hm

theorem isHexByte_hexByte (h : digits ∈ [lowerDigits, upperDigits]) (b : UInt8) :
    IsHexByte (digits.getD (b.toNat / 16) '0') (digits.getD (b.toNat % 16) '0') b := by
  have hd {d : Nat} (hd : d < 16) : IsHexDigit (digits.getD d '0') d := by
    have hl : ∀ digits ∈ [lowerDigits, upperDigits], digits.length = 16 := by decide
    have hg : digits[d]? = some (digits.getD d '0') := by
      rw [List.getD_eq_getElem?_getD, List.getElem?_eq_getElem (by rwa [hl digits h])]
      rfl
    rcases List.mem_pair.mp h with rfl | rfl
    · exact .inl hg
    · exact .inr hg
  have hb : b.toNat < 256 := b.toNat_lt
  exact ⟨_, _, hd (by omega), hd (by omega), by omega⟩

theorem isHexColor_hexColor (h : digits ∈ [lowerDigits, upperDigits]) (color : Color) :
    IsHexColor (hexColor digits color) color :=
  .intro (isHexByte_hexByte h _) (isHexByte_hexByte h _) (isHexByte_hexByte h _)

end

section

variable {c : Char} {name rest : Text}

theorem isNameChar_iff : isNameChar c ↔ isAlphanumeric c ∨ c = '_' ∨ c = '-' := by
  simp [isNameChar, or_assoc]

theorem not_isWhiteSpace_of_isNameChar (h : isNameChar c) : ¬isWhiteSpace c := by
  intro hw
  rcases isNameChar_iff.mp h with h | rfl | rfl
  · exact not_isAlphanumeric_of_isWhiteSpace hw h
  · contradiction
  · contradiction

theorem IsName.isNameChar (h : IsName name) : ∀ c ∈ name, isNameChar c :=
  fun c hc => isNameChar_iff.mpr (h.chars c hc)

-- A name ends where the equals sign stands.
theorem not_isNameChar_equals : ¬isNameChar '=' := by
  decide +kernel

theorem IsName.takeWhile_eq (h : IsName name) :
    (name ++ '=' :: rest).takeWhile Entry.isNameChar = name := by
  rw [List.takeWhile_append_of_pos h.isNameChar, List.takeWhile_cons_of_neg not_isNameChar_equals,
    List.append_nil]

theorem IsName.dropWhile_eq (h : IsName name) :
    (name ++ '=' :: rest).dropWhile Entry.isNameChar = '=' :: rest := by
  rw [List.dropWhile_append_of_pos h.isNameChar, List.dropWhile_cons_of_neg not_isNameChar_equals]

theorem IsName.visible (h : IsName name) : ∀ c ∈ name, ¬isWhiteSpace c :=
  fun c hc => not_isWhiteSpace_of_isNameChar (h.isNameChar c hc)

theorem IsName.normal_eq (h : IsName name) : name.normal = name.lower := by
  have ht : Text.Trimmed name name := .of_ends (fun c hc => h.visible c (List.mem_of_head? hc))
    fun c hc => h.visible c (List.mem_of_getLast? hc)
  exact ht.normal_eq

theorem IsName.text_ofText? (h : IsName name) :
    (ColorName.ofText? name).map (·.text) = some name.lower := by
  have ⟨c, hc⟩ := List.exists_mem_of_ne_nil name h.nonempty
  have ⟨_, ho, ht⟩ := ColorName.exists_ofText? ⟨c, hc, h.visible c hc⟩
  rw [ho, Option.map_some, ht, h.normal_eq]

-- Whatever separates tokens is a blank.
theorem IsName.isWord (h : IsName name) : Command.IsWord name where
  nonempty := h.nonempty
  solid c hc hs := by
    have hw : isWhiteSpace c := by
      simp only [Command.isSeparator, Bool.or_eq_true, beq_iff_eq] at hs
      rcases hs with ((rfl | rfl) | rfl) | rfl <;> rfl
    exact h.visible c hc hw

theorem IsName.tokens_eq (h : IsName name) : Command.tokens name = [name] := by
  have hs := Command.Spaced.cons_word h.isWord (by simp) (.gap .nil)
  rw [List.append_nil] at hs
  exact hs.tokens_eq

end

variable {t name : Text} {e : Entry} {color : Color}

theorem written_of_parse (h : parse t = .ok e) :
    ∃ name, Written t name e.color ∧ e.name = name.lower := by
  simp only [parse] at h
  split at h
  case h_2 => contradiction
  case h_1 a as rest hn hr =>
    split at h
    case h_2 => contradiction
    case h_1 color hc =>
      cases h
      have hm : IsName (a :: as) := by
        refine ⟨List.cons_ne_nil _ _, fun c hc => isNameChar_iff.mp ?_⟩
        exact List.mem_takeWhile_imp (hn ▸ hc)
      have ht : t.trim = a :: as ++ '=' :: rest := by
        rw [← hn, ← hr, List.takeWhile_append_dropWhile]
      exact ⟨a :: as, ⟨hm, rest, ht ▸ Text.trimmed_trim t, hexColor?_eq_some_iff.mp hc⟩,
        (congrArg Text.normal hn).trans hm.normal_eq⟩

theorem Written.parse_eq (h : Written t name color) : parse t = .ok ⟨name.lower, color⟩ := by
  have ⟨hn, hex, ht, hc⟩ := h
  have ⟨a, as, ha⟩ := List.exists_cons_of_ne_nil hn.nonempty
  simp only [parse, ht.trim_eq, hn.takeWhile_eq, hn.dropWhile_eq, hn.normal_eq]
  simp only [ha, hexColor?_eq_some_iff.mpr hc]

theorem parse_eq_error {m : Malformed} (h : parse t = .error m) : m = ⟨t⟩ := by
  simp only [parse] at h
  split at h
  case h_2 =>
    cases h
    rfl
  case h_1 =>
    split at h
    case h_1 => contradiction
    case h_2 =>
      cases h
      rfl

-- Neither the name nor the color has blanks, so an entry without blanks around it is not trimmed.
theorem Written.of_spelled {hex : Text} (hn : IsName name) (hc : IsHexColor hex color) :
    Written (name ++ '=' :: hex) name color := by
  refine ⟨hn, hex, .of_ends ?first ?last, hc⟩
  case first =>
    intro c h
    rw [List.head?_append_of_ne_nil _ hn.nonempty] at h
    exact hn.visible c (List.mem_of_head? h)
  case last =>
    intro c h
    obtain ⟨_, _, ⟨_, _, _, hd, _⟩⟩ := hc
    rw [List.getLast?_append_of_ne_nil _ (List.cons_ne_nil _ _)] at h
    cases h
    exact hd.visible

theorem Written.get?_eq (h : Written t name color) (p : Palette) :
    (p.withEntry ⟨name.lower, color⟩).get? name = some color := by
  rw [withEntry, get?_withColor, ← h.named.normal_eq, Text.normal_normal, if_pos rfl]

theorem Written.drawing?_eq (h : Written t name color) {c : Command.Chain Logged} {call : Call}
    {line : Text} {shape : Shape} (hl : call.line = .ok line)
    (hn : (Command.tokens line).getLast? = some name) (hs : (c.handle line).value = .ok shape)
    (p : Palette) : call.drawing? c (p.withEntry ⟨name.lower, color⟩) = some ⟨shape, color⟩ := by
  simp [Call.drawing?, hl, hs, hn, Except.toOption, h.get?_eq]

-- The entries are the texts of the form `NAME=#RRGGBB`, and any other text is turned down as it was
-- given. As soon as a palette has an entry, servers draw the commands that end in its name, as it
-- was typed, in its color.
theorem entries_color_commands :
    (∀ t e, parse t = .ok e ↔ ∃ name, Written t name e.color ∧ e.name = name.lower) ∧
    (∀ t, (¬∃ name color, Written t name color) → ∃ m, parse t = .error m ∧ m.text = t ∧
      m.message =
        "invalid palette entry ".toList ++ t.quoted ++ ", expected NAME=#RRGGBB".toList) ∧
    (∀ name color, IsName name → ∀ digits ∈ [lowerDigits, upperDigits],
      parse (name ++ '=' :: hexColor digits color) = .ok ⟨name.lower, color⟩) ∧
    ∀ t name color, Written t name color → Command.tokens name = [name] ∧
      ∃ e, parse t = .ok e ∧ (ColorName.ofText? name).map (·.text) = some e.name ∧
        ∀ p : Palette, (p.withEntry e).get? name = some color ∧
          ∀ {σ : Type} [Renderer σ] (s : Server σ) (call : Call) (line : Text) (shape : Shape),
            s.chain.Furnished → s.palette = p.withEntry e → call.line = .ok line →
              (Command.tokens line).getLast? = some name →
                (s.chain.handle line).value = .ok shape →
                  (s.steps [call]).filterMap Step.rendered? = [⟨shape, color⟩] := by
  refine ⟨fun t e => ⟨written_of_parse, ?accepted⟩, ?refused, ?spelled, ?used⟩
  case accepted =>
    rintro ⟨name, hw, hn⟩
    rw [hw.parse_eq, ← hn]
  case refused =>
    intro t hn
    cases h : parse t
    case error m =>
      cases parse_eq_error h
      exact ⟨_, rfl, rfl, rfl⟩
    case ok e =>
      have ⟨name, hw, _⟩ := written_of_parse h
      exact (hn ⟨name, e.color, hw⟩).elim
  case spelled =>
    intro name color hn digits hd
    exact (Written.of_spelled hn (isHexColor_hexColor hd color)).parse_eq
  case used =>
    intro t name color hw
    have hn := hw.named
    refine ⟨hn.tokens_eq, _, hw.parse_eq, hn.text_ofText?, fun p => ⟨hw.get?_eq p, ?_⟩⟩
    intro σ _ s call line shape hc hp hl hn hs
    have hd := hw.drawing?_eq hl hn hs p
    rw [(s.transcript_steps [call]).rendered_eq hc, hp, List.filterMap_cons, hd]
    rfl

-- The name is typed with a capital, in the entry and in the command. A digit is missing in the other
-- text.
theorem entries_color_summer_command :
    let name : Text := "Été_7".toList
    let orange : Color := ⟨255, 128, 0⟩
    let e : Entry := ⟨"été_7".toList, orange⟩
    let summer : ColorName := ⟨⟨"été_7".toList, "été_7".toList, by decide +kernel⟩, by decide⟩
    let display : Display := ⟨.standard, ⟨[]⟩, []⟩
    let s := Server.new .standard (Palette.standard.withEntry e) display
    parse "\tÉté_7=#fF8000\u3000".toList = .ok e ∧
      parse (name ++ '=' :: hexColor upperDigits orange) = .ok e ∧
      (∃ m, parse " Été_7=#FF800".toList = .error m ∧ m.text = " Été_7=#FF800".toList) ∧
      (s.steps [.request "X circle 1 2 3 Été_7".toList]).filterMap Step.rendered? =
        [⟨.circle ⟨1, 2⟩ 3 summer, orange⟩] := by
  intro name orange e summer display s
  have ⟨hp, hr, hs, hu⟩ := entries_color_commands
  have hc : name.all isNameChar := by decide +kernel
  have hn : IsName name :=
    ⟨List.cons_ne_nil _ _, fun c h => isNameChar_iff.mp (List.all_eq_true.mp hc c h)⟩
  have hl : name.lower = e.name := by decide +kernel
  have ht : Text.trim "\tÉté_7=#fF8000\u3000".toList = name ++ '=' :: "#fF8000".toList := by decide
  have hw : Written "\tÉté_7=#fF8000\u3000".toList name orange :=
    ⟨hn, _, ht ▸ Text.trimmed_trim _, hexColor?_eq_some_iff.mp (by decide)⟩
  have hm : parse " Été_7=#FF800".toList = .error ⟨" Été_7=#FF800".toList⟩ := by decide +kernel
  have ⟨m, hm, ht, _⟩ := hr " Été_7=#FF800".toList fun ⟨_, _, hw⟩ => by
    cases hm.symm.trans hw.parse_eq
  have he := (hp _ e).mpr ⟨name, hw, hl.symm⟩
  have ⟨_, e', he', _, hd⟩ := hu _ _ _ hw
  cases he.symm.trans he'
  have hc := hs name orange hn upperDigits (by decide)
  rw [hl] at hc
  refine ⟨he, hc, ⟨m, hm, ht⟩, ?_⟩
  exact (hd .standard).right s _ _ _ Command.Chain.furnished_standard rfl rfl (by decide)
    (by decide +kernel)

end Easel.Palette.Entry

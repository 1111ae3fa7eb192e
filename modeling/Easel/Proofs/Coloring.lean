import Easel.Display
import Easel.Proofs.Command.Language
import Easel.Proofs.Normal
import Easel.Proofs.Run

namespace Easel

open Unicode

namespace ColorName

variable {token : Text} {name : ColorName}

theorem text_eq_normal (h : ofText? token = some name) : name.text = token.normal := by
  have ⟨_, core, hc, ht⟩ := ofText?_eq_some_iff.mp h
  rw [ht, hc.normal_eq]

theorem exists_ofText? (h : ∃ c ∈ token, ¬isWhiteSpace c) :
    ∃ name, ofText? token = some name ∧ name.text = token.normal := by
  have ⟨name, hs⟩ := exists_spelled h
  have hn := ofText?_eq_some_iff.mpr hs
  exact ⟨name, hn, text_eq_normal hn⟩

theorem normal_text (name : ColorName) : name.text.normal = name.text := by
  have ⟨t, ht⟩ := name.normal
  rw [ht, Text.normal_normal]

-- The text of a name is a token that spells it.
theorem ofText?_text (name : ColorName) : ofText? name.text = some name := by
  have hv : ∃ c ∈ name.text, ¬isWhiteSpace c := by
    have hn := mt Text.normal_eq_nil_iff.mpr (name.normal_text ▸ name.nonempty)
    simpa using hn
  have ⟨name', ho, ht⟩ := exists_ofText? hv
  rw [ho, ColorName.ext (ht.trans name.normal_text)]

end ColorName

namespace Palette

variable {t u : Text}

theorem get?_congr (p : Palette) (h : t.normal = u.normal) : p.get? t = p.get? u := by
  rw [get?, get?, Text.normalized_inj.mpr h]

theorem get?_normal (p : Palette) (t : Text) : p.get? t.normal = p.get? t :=
  p.get?_congr t.normal_normal

theorem get?_text (p : Palette) {name : ColorName} (h : ColorName.ofText? t = some name) :
    p.get? name.text = p.get? t := by
  rw [ColorName.text_eq_normal h, get?_normal]

theorem resolve_value (p : Palette) (t : Text) :
    (p.resolve t).value = (p.get? t).getD p.fallback := by
  unfold resolve
  cases p.get? t <;> rfl

end Palette

-- The color of a command is its last token.
theorem Command.Chain.Furnished.color_of_handle {c : Chain Logged} (hc : c.Furnished) {line : Text}
    {shape : Shape} (h : (c.handle line).value = .ok shape) :
    ∃ token, (tokens line).getLast? = some token ∧
      ColorName.ofText? token = some shape.color := by
  have ⟨_, _, _, hi, h⟩ := dispatch_eq_ok_iff.mp h
  have ⟨f, hf, hr⟩ := Interpreter.interpret_eq_ok_iff.mp h
  have ⟨_, hk⟩ := hc.exists_read (mem_of_find? hi)
  have hd := Reading.ofKind_eq_ok_iff.mp (hk ▸ hr)
  refine ⟨f.color, ?_, ColorName.ofText?_eq_some_iff.mpr hd.color⟩
  rw [Fields.ofTokens_eq_ok_iff.mp hf, ← List.cons_append, ← List.cons_append,
    List.getLast?_concat]

-- What is to be rendered in a step, whether that succeeds or not.
def Step.rendered? (s : Step σ) : Option Drawn :=
  match s.operation with
  | .render shape color => some ⟨shape, color⟩
  | .present            => none

namespace Call

-- The request of a call, if it can be read.
def line : Call → Except Failure Text
  | .request text      => .ok text
  | .connection stream => Request.read stream

-- The shape that a call asks for, and the color that a palette has for the last token.
def drawing? (c : Command.Chain Logged) (p : Palette) (call : Call) : Option Drawn := do
  let line  ← call.line.toOption
  let shape ← (c.handle line).value.toOption
  let token ← (Command.tokens line).getLast?
  return ⟨shape, (p.get? token).getD p.fallback⟩

variable {c : Command.Chain Logged} {p : Palette} {call : Call}

theorem parse_eq_map : call.parse c = call.line.map fun line => (c.handle line).value := by
  cases call <;> rfl

theorem parse_eq_ok_iff {parsed : Except Command.Error Shape} :
    call.parse c = .ok parsed ↔ ∃ line, call.line = .ok line ∧ (c.handle line).value = parsed := by
  rw [parse_eq_map]
  cases call.line <;> simp [Except.map]

theorem drawing?_of_unread {f : Failure} (h : call.parse c = .error f) :
    call.drawing? c p = none := by
  rw [parse_eq_map] at h
  unfold drawing?
  cases hl : call.line
  case error => rfl
  case ok    => simp [hl, Except.map] at h

theorem drawing?_of_rejected {e : Command.Error} (h : call.parse c = .ok (.error e)) :
    call.drawing? c p = none := by
  have ⟨line, hl, hr⟩ := parse_eq_ok_iff.mp h
  simp [drawing?, hl, hr, Except.toOption]

theorem drawing?_of_command {shape : Shape} (hc : c.Furnished)
    (h : call.parse c = .ok (.ok shape)) :
    call.drawing? c p = some ⟨shape, (p.resolve shape.color.text).value⟩ := by
  have ⟨line, hl, hs⟩ := parse_eq_ok_iff.mp h
  have ⟨token, ht, hn⟩ := hc.color_of_handle hs
  simp [drawing?, hl, hs, ht, Except.toOption, p.resolve_value, p.get?_text hn]

end Call

section

variable {c : Command.Chain Logged} {p : Palette} {call : Call} {calls : List Call} {steps : List (Step σ)}
  {answer : Except Failure Outcome} {answers : List (Except Failure Outcome)}

theorem Dealt.rendered_eq (hc : c.Furnished) (d : Dealt c p call steps answer) :
    steps.filterMap Step.rendered? = (call.drawing? c p).toList := by
  cases d
  case unread h =>
    rw [Call.drawing?_of_unread h]
    rfl
  case rejected h =>
    rw [Call.drawing?_of_rejected h]
    rfl
  case notRendered h | notPresented h | drawn h =>
    rw [Call.drawing?_of_command hc h]
    rfl

theorem Transcript.rendered_eq (hc : c.Furnished) (t : Transcript c p calls steps answers) :
    steps.filterMap Step.rendered? = calls.filterMap (Call.drawing? c p) := by
  induction t
  case nil => rfl
  case cons hd _ ih =>
    simp only [List.filterMap_append, hd.rendered_eq hc, ih]
    simp only [List.filterMap_eq_flatMap_toList, List.flatMap_cons]

end

-- A name of a color in normal form stays as it is, and a palette has the same color for it as for
-- the text it comes from. Blanks around that text and the case of the letters A to Z do not matter,
-- whatever other characters there are. So what a server renders has the colors that its palette has
-- for the tokens as they were sent.
theorem palette_looks_up_normal_names :
    (∀ t : Text,
      (ColorName.ofText? t = none ↔ ∀ c ∈ t, isWhiteSpace c) ∧
      ((∃ c ∈ t, ¬isWhiteSpace c) → ∃ name, ColorName.ofText? t = some name ∧
        name.text = t.normal ∧ name.text ≠ [] ∧ name.text.normal = name.text ∧
        ColorName.ofText? name.text = some name)) ∧
    (∀ (p : Palette) (t : Text),
      p.get? t.normal = p.get? t ∧
      (∀ name, ColorName.ofText? t = some name → p.get? name.text = p.get? t) ∧
      ∀ before after u : Text, (∀ c ∈ before, isWhiteSpace c) → (∀ c ∈ after, isWhiteSpace c) →
        t.sameLetters u → p.get? (before ++ u ++ after) = p.get? t) ∧
    ∀ {σ : Type} [Renderer σ] (s : Server σ) (calls : List Call), s.chain.Furnished →
      (s.steps calls).filterMap Step.rendered? =
        calls.filterMap (Call.drawing? s.chain s.palette) := by
  refine ⟨fun t => ⟨ColorName.ofText?_eq_none_iff, fun h => ?name⟩,
    fun p t => ⟨p.get?_normal t, fun _ => p.get?_text, ?variant⟩,
    fun s calls hc => (s.transcript_steps calls).rendered_eq hc⟩
  case name =>
    have ⟨name, ho, ht⟩ := ColorName.exists_ofText? h
    exact ⟨name, ho, ht, name.nonempty, name.normal_text, name.ofText?_text⟩
  case variant =>
    intro before after u hb ha hs
    rw [p.get?_congr (Text.normal_surrounded hb ha u), p.get?_congr (Text.normal_eq_of_sameLetters hs)]

-- The capital I with a dot becomes two characters, and the sigma is one at the end of a word.
theorem palette_looks_up_greek_name :
    let t : Text := "\u0130LE ΟΔΟΣ".toList
    let u : Text := "\u0130lE ΟΔΟΣ".toList
    let p := Palette.standard.withColor t ⟨1, 2, 3⟩
    let red : ColorName := ⟨⟨"red".toList, "red".toList, by decide +kernel⟩, by decide⟩
    let s : Server Display := .new .standard p ⟨.standard, ⟨[]⟩, []⟩
    (∃ name, ColorName.ofText? t = some name ∧ name.text = "i\u0307le οδος".toList ∧
      ColorName.ofText? name.text = some name ∧ p.get? name.text = some ⟨1, 2, 3⟩) ∧
      p.get? ("\u00a0".toList ++ u ++ "\t".toList) = some ⟨1, 2, 3⟩ ∧
      s.chain.Furnished ∧
      (s.steps [.request "X CIRCLE 1 2 3 Red".toList]).filterMap Step.rendered? =
        [⟨.circle ⟨1, 2⟩ 3 red, ⟨255, 0, 0⟩⟩] := by
  intro t u p red s
  have ⟨ht, hp, hr⟩ := palette_looks_up_normal_names
  have ⟨_, hn, hv⟩ := hp p t
  have ⟨name, ho, he, _, _, ho'⟩ := (ht t).right ⟨'L', by decide, by decide⟩
  have hl : t.normal = "i\u0307le οδος".toList := by decide +kernel
  have hg : p.get? t = some ⟨1, 2, 3⟩ := by decide +kernel
  have hs := hv "\u00a0".toList "\t".toList u (List.all_eq_true.mp (by decide))
    (List.all_eq_true.mp (by decide)) (by decide)
  have hf : s.chain.Furnished := Command.Chain.furnished_standard
  refine ⟨⟨name, ho, he.trans hl, ho', (hn name ho).trans hg⟩, hs.trans hg, hf, ?_⟩
  rw [hr s _ hf]
  decide +kernel

end Easel

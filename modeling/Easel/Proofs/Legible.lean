import Easel.Proofs.Command.Report
import Easel.Proofs.Logging
import Easel.Proofs.Unicode
import Easel.Proofs.Unreliable

namespace Easel

namespace Unicode

-- The category Cc.
def IsControl (c : Char) : Prop :=
  c.toNat ≤ 0x1F ∨ 0x7F ≤ c.toNat ∧ c.toNat ≤ 0x9F

instance : DecidablePred IsControl :=
  fun c => inferInstanceAs (Decidable (c.toNat ≤ 0x1F ∨ 0x7F ≤ c.toNat ∧ c.toNat ≤ 0x9F))

theorem not_isControl_of_isPrintable {c : Char} (h : isPrintable c) : ¬IsControl c := by
  have hl : ∀ n ≤ 0x1F, unprintable.contains n := by decide +kernel
  have hu : ∀ n ∈ List.range' 0x7F 0x21, unprintable.contains n := by decide +kernel
  intro hc
  have hn : unprintable.contains c.toNat := by
    rcases hc with hc | hc
    · exact hl c.toNat hc
    · exact hu c.toNat (List.mem_range'_1.mpr (by omega))
  simp [isPrintable, hn] at h

theorem not_isControl_of_isUpper_toUpper {c : Char} (h : c.toUpper.isUpper) : ¬IsControl c := by
  rw [Kind.isUpper_iff, Kind.toNat_toUpper] at h
  unfold IsControl
  split at h <;> omega

end Unicode

namespace Text

open Unicode

-- A text that does nothing to whoever looks at it.
def Legible (t : Text) : Prop :=
  ∀ c ∈ t, ¬IsControl c

-- By a walk along the text: a search for the instance may find the one that tries every character.
instance : DecidablePred Legible :=
  fun t => List.decidableBAll (fun c => ¬IsControl c) t

def OneLine (t : Text) : Prop :=
  '\r' ∉ t ∧ '\n' ∉ t

instance : DecidablePred OneLine :=
  fun t => inferInstanceAs (Decidable ('\r' ∉ t ∧ '\n' ∉ t))

variable {t u : Text}

theorem Legible.oneLine (h : t.Legible) : t.OneLine :=
  ⟨fun hr => h '\r' hr (by decide), fun hn => h '\n' hn (by decide)⟩

theorem OneLine.append (ht : t.OneLine) (hu : u.OneLine) : (t ++ u).OneLine :=
  ⟨List.not_mem_append ht.left hu.left, List.not_mem_append ht.right hu.right⟩

theorem Legible.append (ht : t.Legible) (hu : u.Legible) : (t ++ u).Legible :=
  List.forall_mem_append.mpr ⟨ht, hu⟩

theorem Legible.cons {c : Char} (hc : ¬IsControl c) (ht : t.Legible) : Legible (c :: t) :=
  List.forall_mem_cons.mpr ⟨hc, ht⟩

theorem legible_toDigits {b : Nat} (hb : 1 < b) (h : b ≤ 16) (n : Nat) :
    Legible (Nat.toDigits b n) := by
  have hd : ∀ d < 16, ¬IsControl (Nat.digitChar d) := by decide
  induction n using Nat.strong_induction_on
  case h n ih =>
    rw [Nat.toDigits_eq_if hb]
    split
    case isTrue hn  => simpa [Legible] using hd n (by omega)
    case isFalse hn =>
      have hm : n % b < b := Nat.mod_lt n (by omega)
      have hl := ih (n / b) (Nat.div_lt_self (by omega) hb)
      exact hl.append (by simpa [Legible] using hd (n % b) (by omega))

theorem legible_ofNat (n : Nat) : (ofNat n).Legible :=
  legible_toDigits (by decide) (by decide) n

theorem legible_ofInt (x : Int) : (ofInt x).Legible := by
  cases x
  case ofNat n   => exact legible_ofNat n
  case negSucc n => exact .cons (by decide) (legible_ofNat (n + 1))

theorem legible_escape (c : Char) : (escape c).Legible := by
  have hn : Legible (codeEscape c) :=
    .append (.append (by decide) (legible_toDigits (by decide) (by decide) c.toNat)) (by decide)
  unfold escape
  split
  case h_7 =>
    split
    case isTrue    => exact hn
    case isFalse h =>
      have hp : isPrintable c := by simp at h; exact h.right
      simpa [Legible] using not_isControl_of_isPrintable hp
  all_goals decide

theorem legible_quoted (t : Text) : t.quoted.Legible := by
  have hq : ∀ c ∈ t.flatMap escape, ¬IsControl c := by
    intro c hc
    have ⟨d, _, hd⟩ := List.mem_flatMap.mp hc
    exact legible_escape d c hd
  exact .cons (by decide) (.append hq (by decide))

end Text

open Text

theorem Kind.legible_keyword (k : Kind) : k.keyword.Legible := by
  cases k <;> decide

-- Where only the letters of a keyword are looked at, there is nothing else.
theorem Kind.Spelled.legible {k : Kind} {t : Text} (h : k.Spelled t) : t.Legible := by
  have hu : ∀ c ∈ t.map Char.toUpper, c.isUpper := by
    rcases named_iff_capitals.mp (named_iff.mpr h) with h | h
    · exact h ▸ k.keyword_isUpper
    · exact alias_isUpper h
  exact fun c hc => Unicode.not_isControl_of_isUpper_toUpper (hu _ (List.mem_map_of_mem hc))

theorem Color.legible_text (c : Color) : c.text.Legible := by
  have hs (n : Nat) : Legible (' ' :: ofNat n) := .cons (by decide) (legible_ofNat n)
  exact .append (.append (.append (.append (by decide) (legible_ofNat _)) (hs _)) (hs _)) (by decide)

namespace Command

theorem ArgumentError.legible_message (e : ArgumentError) : e.message.Legible := by
  cases e
  case missing part => cases part <;> decide
  case notAnInteger argument token =>
    have ha : argument.name.Legible := by
      cases argument
      case x k | y k => exact .cons (by decide) (legible_ofNat k)
      all_goals decide
    exact .append (.append ha (by decide)) (legible_quoted token)
  case arity expected found =>
    exact .append (.append (.append (by decide) (legible_ofNat _)) (by decide)) (legible_ofNat _)
  case danglingCoordinate count => exact .append (.append (by decide) (legible_ofNat _)) (by decide)
  case tooFewVertices count     => exact .append (by decide) (legible_ofNat _)

theorem Error.legible_message_malformed (subject : Subject) (cause : ArgumentError) :
    (malformed subject cause).message.Legible := by
  have hs : subject.name.Legible := by
    cases subject
    case command => decide
    case shape k => exact k.legible_keyword
  exact .append (.append (.append (by decide) hs) (by decide)) cause.legible_message

theorem oneLine_of_solid {t : Text} (h : ∀ c ∈ t, ¬isSeparator c) : t.OneLine :=
  ⟨fun hr => h '\r' hr rfl, fun hn => h '\n' hn rfl⟩

theorem Chain.legible_handledBy {c : Chain Logged} {keyword : Text} {i : Interpreter Logged}
    (h : c.find? keyword = some i) : (handledBy keyword i).text.Legible :=
  .append (.append (.append (spelled_of_find? h).legible (by decide)) i.kind.legible_keyword)
    (by decide)

end Command

-- Surfaces that write nothing but legible records.
class Renderer.Legible (σ : Type) [Renderer σ] : Prop where
  log : ∀ (a : σ) (o : Operation), ∀ r ∈ (o.perform a).log, r.text.Legible

instance : Renderer.Legible Display where
  log d o r h := by
    cases o
    case render shape color =>
      cases List.mem_append.mp h
      case inl h =>
        have ⟨radius, hr⟩ := Canvas.eq_of_mem_radiusWarning h
        subst hr
        exact .append (.append (.append (by decide) (legible_ofInt _)) (by decide)) (legible_ofNat _)
      case inr h =>
        cases List.mem_singleton.mp h
        exact .append (.append (.append (by decide) shape.kind.legible_keyword) (by decide))
          color.legible_text
    case present =>
      have ⟨output, _, hr⟩ := Display.eq_of_mem_log h
      subst hr
      exact .append (.append (.append (by decide) (legible_ofNat _)) (by decide))
        (legible_quoted output)

instance {σ : Type} [Renderer σ] [Renderer.Legible σ] : Renderer.Legible (Unreliable σ) where
  log u o r h := Renderer.Legible.log u.surface o r (Unreliable.mem_log h)

namespace Server

open Command

variable {σ : Type} [Renderer σ] {s : Server σ} {request : Text} {r : Record}

theorem Emits.legible [Renderer.Legible σ] (hc : s.chain.Furnished) (h : s.Emits request r) :
    r.text.Legible ∨ ∃ keyword, (s.chain.handle request).value = .error (.unsupportedShape keyword) ∧
      r = .warn ("unsupported shape: ".toList ++ keyword) := by
  cases h
  case received => exact .inl (.append (by decide) (legible_quoted request))
  case handledBy hi => exact .inl (Chain.legible_handledBy hi)
  case read hi hr =>
    have ⟨k, hr⟩ := hc.eq_of_mem_log hi hr
    exact .inl (hr ▸ .append (by decide) k.legible_keyword)
  case unknownColor name =>
    exact .inl (.append (.append (.append (by decide) (legible_quoted name)) (by decide))
      s.palette.fallback.legible_text)
  case performed surface o h => exact .inl (Renderer.Legible.log surface o r h)
  case rejected e he =>
    cases e
    case malformed subject cause  => exact .inl (Error.legible_message_malformed subject cause)
    case unsupportedShape keyword => exact .inr ⟨keyword, he, rfl⟩

-- A keyword that nobody knows is shown as it was sent, and nothing else is written about it.
theorem unsupported_of_result {keyword : Text}
    (h : (s.handleRequest request).result = .ok (.rejected (.unsupportedShape keyword))) :
    (s.handleRequest request).log =
        [received request, .warn ("unsupported shape: ".toList ++ keyword)] ∧
      ∃ header rest, Spaced request (header :: keyword :: rest) := by
  have hd := s.dealt_steps (.request request)
  rw [answer, h] at hd
  generalize s.steps [.request request] = steps at hd
  cases hd
  case rejected hp =>
    have hv : (s.chain.handle request).value = .error (.unsupportedShape keyword) :=
      Except.ok.inj hp
    obtain ⟨hw, hn⟩ := Chain.dispatch_eq_unsupported_iff.mp hv
    have hl : (s.chain.handle request).log = [] := by simp [Chain.handle, Chain.dispatch, hw, hn]
    refine ⟨?log, ?request⟩
    case log =>
      rw [handleRequest_of_error hv, hl]
      rfl
    case request =>
      have hs := spaced_tokens request
      cases ht : tokens request
      case nil => simp [ht] at hw
      case cons header tokens =>
        rw [ht] at hs hw
        cases tokens
        case nil => simp at hw
        case cons keyword' rest =>
          cases hw
          exact ⟨header, rest, hs⟩

-- Nothing that a client sends makes a second record out of the one that is about it, or does anything
-- to a terminal that shows it. There is one exception: a keyword that nobody knows is shown as it is.
-- It has no blanks in it that end a line.
theorem handleRequest_logs_legibly [Renderer.Legible σ] (s : Server σ) (hf : s.chain.Furnished)
    (request : Text) :
    let handled := s.handleRequest request
    (∀ r ∈ handled.log, r.text.OneLine) ∧
      (∀ r ∈ handled.log, r.text.Legible ∨
        ∃ keyword, handled.result = .ok (.rejected (.unsupportedShape keyword)) ∧
          r = .warn ("unsupported shape: ".toList ++ keyword)) ∧
      ∀ keyword, handled.result = .ok (.rejected (.unsupportedShape keyword)) →
        handled.log = [received request, .warn ("unsupported shape: ".toList ++ keyword)] ∧
          (∃ header rest, Spaced request (header :: keyword :: rest)) ∧
          ∀ c ∈ keyword, ¬isSeparator c := by
  intro handled
  have hk (keyword : Text)
      (h : handled.result = .ok (.rejected (.unsupportedShape keyword))) :
      handled.log = [received request, .warn ("unsupported shape: ".toList ++ keyword)] ∧
        (∃ header rest, Spaced request (header :: keyword :: rest)) ∧
        ∀ c ∈ keyword, ¬isSeparator c := by
    have ⟨hl, header, rest, hs⟩ := unsupported_of_result h
    exact ⟨hl, ⟨header, rest, hs⟩, (hs.isWord keyword (by simp)).solid⟩
  have hc (r : Record) (h : r ∈ handled.log) : r.text.Legible ∨
      ∃ keyword, handled.result = .ok (.rejected (.unsupportedShape keyword)) ∧
        r = .warn ("unsupported shape: ".toList ++ keyword) := by
    refine ((Emits.of_mem h).legible hf).imp_right fun ⟨keyword, hv, hr⟩ => ⟨keyword, ?_, hr⟩
    exact congrArg Effect.result (handleRequest_of_error hv)
  refine ⟨?oneLine, hc, hk⟩
  case oneLine =>
    intro r hr
    rcases hc r hr with hl | ⟨keyword, hv, rfl⟩
    · exact hl.oneLine
    · have ⟨_, _, hs⟩ := hk keyword hv
      exact .append (by decide) (oneLine_of_solid hs)

theorem handleRequest_logs_screen_clearing_keyword :
    let s : Server Display := .new .standard .standard ⟨.standard, .around [], []⟩
    let keyword := "CIRC\x1b[2JLE\x07".toList
    let request := "\x1b]0;X ".toList ++ keyword ++ " 1\x00 2 3 red\nforged".toList
    let handled := s.handleRequest request
    (∀ r ∈ handled.log, r.text.OneLine) ∧
      (∀ r ∈ handled.log, r.text.Legible ∨
        ∃ keyword, handled.result = .ok (.rejected (.unsupportedShape keyword)) ∧
          r = .warn ("unsupported shape: ".toList ++ keyword)) ∧
      handled.log = [Server.received request, .warn ("unsupported shape: ".toList ++ keyword)] ∧
      ∀ c ∈ keyword, ¬isSeparator c := by
  intro s keyword request handled
  have hr : handled.result = .ok (.rejected (.unsupportedShape keyword)) := rfl
  have ⟨ho, hl, hk⟩ := s.handleRequest_logs_legibly Command.Chain.furnished_standard request
  have ⟨hlog, _, hs⟩ := hk keyword hr
  exact ⟨ho, hl, hlog, hs⟩

end Server

end Easel

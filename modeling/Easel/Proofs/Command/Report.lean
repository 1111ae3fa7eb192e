import Easel.Proofs.Command.Fault
import Easel.Proofs.Command.Order

namespace Easel.Command

-- A command may end before its keyword, ask for a shape that there is not, or end with its keyword.
inductive Keywordless (tokens : List Text) : Error → Prop
  | intro : tokens.length < 2 → Keywordless tokens (.malformed .command (.missing .keyword))

inductive Unsupported (tokens : List Text) : Error → Prop
  | intro : tokens[1]? = some keyword → (∀ k : Kind, ¬k.Spelled keyword) →
      Unsupported tokens (.unsupportedShape keyword)

inductive Colorless (tokens : List Text) : Error → Prop
  | intro : tokens = [header, keyword] → k.Spelled keyword →
      Colorless tokens (.malformed (.shape k) (.missing .color))

-- A fault in the fields of a command. It is put down to the kind of shape that is asked for.
inductive Within (fault : Kind → Fields → ArgumentError → Prop) (tokens : List Text) : Error → Prop
  | intro : tokens = f.header :: f.keyword :: (f.arguments ++ [f.color]) → k.Spelled f.keyword →
      fault k f cause → Within fault tokens (.malformed (.shape k) cause)

-- What can be wrong with a command, in the order in which it is looked for.
def faults : List (List Text → Error → Prop) :=
  [Keywordless, Unsupported, Colorless, Within Fields.Miscounted, Within Fields.Unreadable,
    Within Fields.TooSmall, Within Fields.Blank]

theorem mapError_eq_error_iff {ε ε' α : Type} {e : Except ε α} {f : ε → ε'} {x : ε'} :
    e.mapError f = .error x ↔ ∃ y, x = f y ∧ e = .error y := by
  cases e <;> simp [Except.mapError, eq_comm]

theorem Fields.ofTokens_eq_error {tokens : List Text} {e : ArgumentError}
    (h : Fields.ofTokens tokens = .error e) :
    tokens.length < 2 ∧ e = .missing .keyword ∨
      ∃ header keyword, tokens = [header, keyword] ∧ e = .missing .color := by
  unfold Fields.ofTokens at h
  split at h
  case h_1 | h_2 =>
    cases h
    exact .inl ⟨by simp, rfl⟩
  case h_3 header keyword =>
    cases h
    exact .inr ⟨header, keyword, rfl, rfl⟩
  case h_4 => contradiction

section

variable {c : Chain Logged} {i : Interpreter Logged} {tokens : List Text} {f : Fields} {k : Kind}
  {keyword : Text} {e e' : Error} {shape : Shape}

theorem Interpreter.interpret_eq_error_iff :
    (i.interpret tokens).value = .error e ↔
      ∃ cause, e = .malformed (.shape i.kind) cause ∧
        (Fields.ofTokens tokens = .error cause ∨
          ∃ f, Fields.ofTokens tokens = .ok f ∧ (i.read f).value = .error cause) := by
  unfold Interpreter.interpret
  cases Fields.ofTokens tokens
  case error => simp [eq_comm]
  case ok f  => simp [mapError_eq_error_iff]

theorem Chain.dispatch_eq_error_iff :
    (c.dispatch tokens).value = .error e ↔
      tokens[1]? = none ∧ e = .malformed .command (.missing .keyword) ∨
        ∃ keyword, tokens[1]? = some keyword ∧
          (c.find? keyword = none ∧ e = .unsupportedShape keyword ∨
            ∃ i, c.find? keyword = some i ∧ (i.interpret tokens).value = .error e) := by
  cases hk : tokens[1]?
  case none => simp [dispatch, hk, eq_comm]
  case some keyword =>
    cases hi : c.find? keyword
    case none   => simp [dispatch, hk, hi, eq_comm]
    case some i => simp [dispatch_of_find? hk hi, hi, Logged.after]

-- Everything that an interpreter complains about is the arguments.
theorem Chain.dispatch_eq_unsupported_iff :
    (c.dispatch tokens).value = .error (.unsupportedShape keyword) ↔
      tokens[1]? = some keyword ∧ c.find? keyword = none := by
  rw [dispatch_eq_error_iff]
  constructor
  case mpr => exact fun ⟨hw, hn⟩ => .inr ⟨keyword, hw, .inl ⟨hn, rfl⟩⟩
  case mp =>
    rintro (⟨_, h⟩ | ⟨keyword', hw, ⟨hn, h⟩ | ⟨i, _, h⟩⟩)
    · contradiction
    · cases h
      exact ⟨hw, hn⟩
    · have ⟨_, h, _⟩ := Interpreter.interpret_eq_error_iff.mp h
      contradiction

section

variable (hf : Fields.ofTokens tokens = .ok f) (hk : k.Spelled f.keyword)

include hf hk

-- The fields and the kind can be told from the tokens.
theorem within_iff {fault : Kind → Fields → ArgumentError → Prop} :
    Within fault tokens e ↔ ∃ cause, fault k f cause ∧ e = .malformed (.shape k) cause := by
  constructor
  case mp =>
    rintro ⟨ht, hk', hc⟩
    cases hf.symm.trans (Fields.ofTokens_eq_ok_iff.mpr ht)
    cases hk.unique hk'
    exact ⟨_, hc, rfl⟩
  case mpr =>
    rintro ⟨cause, hc, rfl⟩
    exact .intro (Fields.ofTokens_eq_ok_iff.mp hf) hk hc

theorem Foremost.within (defects : List (Kind → Fields → ArgumentError → Prop))
    {cause : ArgumentError} (h : Foremost (defects.map (· k)) f cause) :
    Foremost (defects.map Within) tokens (.malformed (.shape k) cause) := by
  induction defects
  case nil => nomatch h
  case cons defect defects ih =>
    cases h
    case here h => exact .here ((within_iff hf hk).mpr ⟨cause, h, rfl⟩)
    case later hn h =>
      refine .later (fun e hw => ?_) (ih h)
      have ⟨cause, hc, _⟩ := (within_iff hf hk).mp hw
      exact hn cause hc

end

theorem Within.unique {fault : Kind → Fields → ArgumentError → Prop}
    (hu : ∀ {k f e e'}, fault k f e → fault k f e' → e = e') (h : Within fault tokens e)
    (h' : Within fault tokens e') : e = e' := by
  obtain ⟨ht, hk, hc⟩ := h
  obtain ⟨cause, hc', rfl⟩ := (within_iff (Fields.ofTokens_eq_ok_iff.mpr ht) hk).mp h'
  rw [hu hc hc']

end

end Easel.Command

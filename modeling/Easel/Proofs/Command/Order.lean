import Easel.Proofs.Command.Language
import Mathlib.Data.List.Nodup
import Mathlib.Logic.Relation

namespace Easel.Command.Chain

-- The interpreter that has the say about the shapes of a kind.
def first? (c : Chain Logged) (k : Kind) : Option (Interpreter Logged) :=
  c.interpreters.find? (·.kind = k)

-- Every kind has its first interpreter in both chains or in none, and both have the same reader.
def Agree (c d : Chain Logged) : Prop :=
  ∀ k, (c.first? k).map Interpreter.read = (d.first? k).map Interpreter.read

-- Chains that come to the same, whatever they are given.
structure Equivalent (c d : Chain Logged) : Prop where
  dispatch : ∀ tokens, c.dispatch tokens = d.dispatch tokens
  handle   : ∀ line, c.handle line = d.handle line

-- The second chain has one interpreter more, whose kind has an interpreter further ahead.
inductive Repeats : Chain Logged → Chain Logged → Prop
  | intro : (∃ j ∈ earlier, j.kind = i.kind) → Repeats ⟨earlier ++ later⟩ ⟨earlier ++ i :: later⟩

def extend (c : Chain Logged) (further : List (Interpreter Logged)) : Chain Logged :=
  ⟨c.interpreters ++ further⟩

variable {c d : Chain Logged} {k : Kind} {i : Interpreter Logged} {keyword : Text}

theorem kind_of_first? (h : c.first? k = some i) : i.kind = k := by
  simpa using List.find?_some h

-- At most one kind goes by a keyword, so the interpreters that can handle it are those of that kind.
theorem find?_of_spelled (h : k.Spelled keyword) : c.find? keyword = c.first? k := by
  refine congrArg (List.find? · c.interpreters) (funext fun i => Bool.eq_iff_iff.mpr ?_)
  rw [Interpreter.canHandle, Kind.named_iff, decide_eq_true_iff]
  constructor
  case mp  => exact fun hi => hi.unique h
  case mpr => exact fun hi => hi ▸ h

theorem find?_of_not_spelled (h : ∀ k : Kind, ¬k.Spelled keyword) : c.find? keyword = none :=
  List.find?_eq_none.mpr fun i _ hi => h i.kind (Kind.named_iff.mp hi)

namespace Agree

theorem first?_eq (h : Agree c d) (k : Kind) : c.first? k = d.first? k := by
  have hk := h k
  cases hc : c.first? k
  case none =>
    rw [hc] at hk
    exact (Option.map_eq_none_iff.mp hk.symm).symm
  case some i =>
    rw [hc] at hk
    have ⟨j, hd, hl⟩ := Option.map_eq_some_iff.mp hk.symm
    have hj : j.kind = i.kind := (kind_of_first? hd).trans (kind_of_first? hc).symm
    have ⟨_, _⟩ := i
    have ⟨_, _⟩ := j
    cases hj
    cases hl
    exact hd.symm

theorem find?_eq (h : Agree c d) (keyword : Text) : c.find? keyword = d.find? keyword := by
  by_cases hs : ∃ k : Kind, k.Spelled keyword
  case pos =>
    have ⟨k, hs⟩ := hs
    rw [find?_of_spelled hs, find?_of_spelled hs, h.first?_eq]
  case neg =>
    have hn := not_exists.mp hs
    rw [find?_of_not_spelled hn, find?_of_not_spelled hn]

theorem equivalent (h : Agree c d) : Equivalent c d := by
  have hd (tokens : List Text) : c.dispatch tokens = d.dispatch tokens := by
    simp only [dispatch, h.find?_eq]
  exact ⟨hd, fun line => hd (Command.tokens line)⟩

end Agree

-- If no kind has two interpreters, the one that has the say is the one that there is.
theorem first?_eq_some_iff (hn : (c.interpreters.map Interpreter.kind).Nodup) :
    c.first? k = some i ↔ i ∈ c.interpreters ∧ i.kind = k := by
  constructor
  case mp => exact fun h => ⟨List.mem_of_find?_eq_some h, kind_of_first? h⟩
  case mpr =>
    rintro ⟨hi, rfl⟩
    cases h : c.first? i.kind
    case none => simpa using List.find?_eq_none.mp h i hi
    case some j =>
      have hj := List.mem_of_find?_eq_some h
      rw [List.inj_on_of_nodup_map hn hj hi (kind_of_first? h)]

theorem Agree.of_perm (hp : c.interpreters.Perm d.interpreters)
    (hn : (d.interpreters.map Interpreter.kind).Nodup) : Agree c d := by
  have hc : (c.interpreters.map Interpreter.kind).Nodup := (hp.map _).nodup_iff.mpr hn
  intro k
  refine congrArg _ (Option.ext fun i => ?_)
  rw [first?_eq_some_iff hc, first?_eq_some_iff hn, hp.mem_iff]

theorem Agree.of_repeats (h : Repeats c d) : Agree c d := by
  cases h
  case intro earlier i later hj =>
    intro k
    simp only [first?, List.find?_append, List.find?_cons]
    split
    case h_1 hi =>
      -- The interpreter further ahead is of this kind too, so the search does not get here.
      have hs : (earlier.find? (·.kind = k)).isSome := by
        simpa [← of_decide_eq_true hi] using hj
      rw [Option.or_of_isSome hs, Option.or_of_isSome hs]
    case h_2 => rfl

theorem Agree.of_eqvGen (h : Relation.EqvGen Repeats c d) : Agree c d := by
  induction h
  case rel h        => exact .of_repeats h
  case refl         => exact fun _ => rfl
  case symm ih      => exact fun k => (ih k).symm
  case trans ih ih' => exact fun k => (ih k).trans (ih' k)

theorem dispatch_extend {tokens : List Text} (further : List (Interpreter Logged))
    (h : ∀ keyword, (c.dispatch tokens).value ≠ .error (.unsupportedShape keyword)) :
    (c.extend further).dispatch tokens = c.dispatch tokens := by
  unfold dispatch at h ⊢
  cases hk : tokens[1]?
  case none => rfl
  case some keyword =>
    cases hi : c.find? keyword
    case none => simp [hk, hi] at h
    case some i =>
      have he : (c.extend further).find? keyword = some i := by
        rw [find?, extend, List.find?_append, ← find?, hi, Option.some_or]
      simp only [hi, he]

-- The order of the interpreters does not matter, as every keyword is one of a single kind. All that
-- does is which interpreter of a kind is the first one, whatever their readers are.
theorem dispatch_ignores_order :
    (∀ (k₁ k₂ : Kind) (keyword : Text), k₁.named keyword → k₂.named keyword → k₁ = k₂) ∧
      (∀ c d : Chain Logged, Agree c d → Equivalent c d) ∧
      (∀ c : Chain Logged, c.interpreters.Perm standard.interpreters → Equivalent c standard) ∧
      (∀ c d : Chain Logged, Relation.EqvGen Repeats c d → Equivalent c d) ∧
      ∀ (c : Chain Logged) (further : List (Interpreter Logged)),
        (∀ tokens, (∀ keyword, (c.dispatch tokens).value ≠ .error (.unsupportedShape keyword)) →
          (c.extend further).dispatch tokens = c.dispatch tokens) ∧
        ∀ line, (∀ keyword, (c.handle line).value ≠ .error (.unsupportedShape keyword)) →
          (c.extend further).handle line = c.handle line := by
  refine ⟨?kind, fun _ _ h => h.equivalent, ?standard, ?repeated, ?extended⟩
  case kind =>
    intro k₁ k₂ keyword h₁ h₂
    exact (Kind.named_iff.mp h₁).unique (Kind.named_iff.mp h₂)
  case standard => exact fun c h => (Agree.of_perm h (by decide)).equivalent
  case repeated => exact fun c d h => (Agree.of_eqvGen h).equivalent
  case extended =>
    exact fun c further => ⟨fun _ => dispatch_extend further, fun _ => dispatch_extend further⟩

theorem dispatch_ignores_order_of_crossed_chains :
    let crossed  : Interpreter Logged := ⟨.circle, Reading.segment⟩
    let shuffled : Chain Logged :=
      ⟨[Kind.polygon, .circle, .triangle, .segment].map Interpreter.ofKind⟩
    let earlier  : Chain Logged := ⟨[crossed, .ofKind .polygon]⟩
    let later    : Chain Logged := ⟨[.ofKind .polygon, crossed, .ofKind .circle]⟩
    (∀ k : Kind, k.named "Polygone".toList → k = .polygon) ∧ Equivalent earlier later ∧
      Equivalent shuffled standard ∧ Equivalent ⟨[crossed]⟩ ⟨[crossed, .ofKind .circle]⟩ ∧
      (earlier.extend standard.interpreters).handle "X circle 1 2 3 red".toList =
        earlier.handle "X circle 1 2 3 red".toList := by
  intro crossed shuffled earlier later
  have hr : Repeats ⟨[crossed] ++ []⟩ ⟨[crossed] ++ .ofKind .circle :: []⟩ :=
    .intro ⟨crossed, List.mem_singleton_self _, rfl⟩
  have hs : shuffled.interpreters.Perm standard.interpreters :=
    List.Perm.map Interpreter.ofKind (by decide : [Kind.polygon, .circle, .triangle, .segment].Perm
      [.circle, .segment, .triangle, .polygon])
  have ⟨hk, ha, hp, hg, he⟩ := dispatch_ignores_order
  refine ⟨fun k h => hk k .polygon _ h (by decide), ?_, hp shuffled hs, hg _ _ (.rel _ _ hr),
    (he earlier _).right _ fun keyword => nofun⟩
  exact ha earlier later fun k => by cases k <;> rfl

end Easel.Command.Chain

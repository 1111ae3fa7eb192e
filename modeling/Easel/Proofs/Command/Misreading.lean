import Easel.Proofs.Command.Reading
import Easel.Proofs.Digits

namespace Easel

-- What the argument at index `i` of a shape is called.
inductive Kind.Labels : Kind → Nat → Text → Prop
  | centerX : Labels circle 0 "cx".toList
  | centerY : Labels circle 1 "cy".toList
  | radius  : Labels circle 2 "radius".toList
  | x       : k ≠ circle → i = 2 * n → Labels k i ('x' :: Text.ofNat (n + 1))
  | y       : k ≠ circle → i = 2 * n + 1 → Labels k i ('y' :: Text.ofNat (n + 1))

theorem Kind.Labels.unique {k : Kind} {i : Nat} {t u : Text} (h : k.Labels i t)
    (h' : k.Labels i u) : t = u := by
  cases h <;> cases h'
  case x.x | y.y =>
    congr 3
    omega
  case x.y | y.x => omega
  case centerX.centerX | centerY.centerY | radius.radius => rfl
  all_goals contradiction

namespace Command

theorem Argument.name_inj {a b : Argument} (h : a.name = b.name) : a = b := by
  cases a <;> cases b
  case x.x m n => exact congrArg _ (Text.ofNat_inj (List.cons.inj h).right)
  case y.y m n => exact congrArg _ (Text.ofNat_inj (List.cons.inj h).right)
  case centerX.centerX | centerY.centerY | radius.radius => rfl
  all_goals cases h

-- A token that is no integer, where those of the arguments before it are. The tokens are the
-- arguments from index `start` on.
inductive Misread (k : Kind) (start : Nat) (tokens : List Text) : ArgumentError → Prop
  | intro : tokens[i]? = some token → (∀ v, ¬Literal token v) →
      (∀ t ∈ tokens.take i, ∃ v, Literal t v) → k.Labels (start + i) argument.name →
      Misread k start tokens (.notAnInteger argument token)

namespace Misread

variable {k : Kind} {start : Nat} {token : Text} {tokens : List Text} {e e' : ArgumentError}

theorem head {argument : Argument} (h : ∀ v, ¬Literal token v)
    (ha : k.Labels start argument.name) :
    Misread k start (token :: tokens) (.notAnInteger argument token) :=
  .intro (i := 0) rfl h nofun ha

theorem tail {v : Int} (hv : Literal token v) (h : Misread k (start + 1) tokens e) :
    Misread k start (token :: tokens) e := by
  cases h
  case intro i token argument ht hn hl ha =>
    have ha : k.Labels (start + (i + 1)) _ := Nat.add_right_comm start 1 i ▸ ha
    exact .intro (i := i + 1) ht hn (List.forall_mem_cons.mpr ⟨⟨v, hv⟩, hl⟩) ha

-- Of two tokens at which the reading could stop, the earlier one is among those before the later.
theorem unique (h : Misread k start tokens e) (h' : Misread k start tokens e') : e = e' := by
  cases h
  case intro i t a ht hn hl ha =>
    cases h'
    case intro j u b hu hm hr hb =>
      have hi : ¬i < j := fun hij =>
        have ⟨v, hv⟩ := hr _ (List.mem_of_getElem? (List.getElem?_take_of_lt hij ▸ ht))
        hn v hv
      have hj : ¬j < i := fun hji =>
        have ⟨v, hv⟩ := hl _ (List.mem_of_getElem? (List.getElem?_take_of_lt hji ▸ hu))
        hm v hv
      have he : i = j := by omega
      subst he
      rw [Argument.name_inj (ha.unique hb), Option.some.inj (ht.symm.trans hu)]

end Misread

theorem exists_literal {tokens : List Text} {numbers : List Int}
    (h : List.Forall₂ Literal tokens numbers) : ∀ t ∈ tokens, ∃ v, Literal t v := by
  induction h
  case nil          => exact nofun
  case cons hv _ ih => exact List.forall_mem_cons.mpr ⟨⟨_, hv⟩, ih⟩

section

variable {k : Kind} {n : Nat} {x y : Text} {rest tokens : List Text} {e : ArgumentError}

end

end Command
end Easel

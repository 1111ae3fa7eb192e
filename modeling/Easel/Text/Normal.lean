import Easel.Text
import Easel.Unicode.Cased
import Easel.Unicode.Lowercase

namespace Easel.Text

open Unicode

def trim (t : Text) : Text :=
  dropEndWhile isWhiteSpace (t.dropWhile isWhiteSpace)

-- Whether the first character that is not case-ignorable is a letter with case.
def startsCased (t : Text) : Bool :=
  match t.dropWhile isCaseIgnorable with
  | []     => false
  | c :: _ => isCased c

-- A capital sigma ends a word if a letter stands before it and none after it, where marks and
-- apostrophes in between do not count. `before` is read backwards from the sigma.
def sigma (before after : Text) : Char :=
  if startsCased before && !startsCased after then 'ς' else 'σ'

-- The lower case of a text that follows `before`, the latter with its last character first.
def lowerAfter (before : Text) : Text → Text
  | []        => []
  | c :: rest =>
    let lower := if c = 'Σ' then [sigma before rest] else lowercase c
    lower ++ lowerAfter (c :: before) rest

def lower (t : Text) : Text :=
  lowerAfter [] t

theorem lowerAfter_of_ascii {t : Text} (h : ∀ c ∈ t, c.toNat < 128) (before : Text) :
    lowerAfter before t = t.map Char.toLower := by
  induction t generalizing before
  case nil => rfl
  case cons c t ih =>
    have ⟨hc, ht⟩ := List.forall_mem_cons.mp h
    have hs : c ≠ 'Σ' := by
      rintro rfl
      contradiction
    rw [lowerAfter, if_neg hs, lowercase_of_ascii hc, ih ht, List.singleton_append, List.map_cons]

-- In ASCII only the letters A to Z change, wherever they stand.
theorem lower_of_ascii {t : Text} (h : ∀ c ∈ t, c.toNat < 128) : t.lower = t.map Char.toLower :=
  lowerAfter_of_ascii h []

theorem lower_eq_nil_iff {t : Text} : t.lower = [] ↔ t = [] := by
  cases t
  case nil => simp [lower, lowerAfter]
  case cons c t =>
    simp only [lower, lowerAfter]
    split <;> simp [lowercase_ne_nil]

-- Names of colors are compared in this form: without blanks at either end, and in lower case.
def normal (t : Text) : Text :=
  t.trim.lower

-- A text that is in this form.
@[ext]
structure Normal where
  text   : Text
  normal : ∃ t : Text, text = t.normal
  deriving DecidableEq

def normalized (t : Text) : Normal :=
  ⟨t.normal, t, rfl⟩

theorem normalized_inj {t u : Text} : t.normalized = u.normalized ↔ t.normal = u.normal :=
  Normal.ext_iff

end Easel.Text

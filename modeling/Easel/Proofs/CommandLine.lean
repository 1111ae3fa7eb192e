import Easel.Options
import Easel.Proofs.Command.Reading

namespace Easel.Options

open Command (bind_eq_ok_iff pure_eq_ok_iff)

-- An argument that has nothing to do with the palette.
structure Foreign (arg : Text) : Prop where
  switch   : arg ≠ "--palette".toList
  attached : ∀ value, arg ≠ "--palette=".toList ++ value

-- The values that a command line gives for the palette, in their order. Each is attached to the
-- switch, or is the argument behind it.
inductive Asks : List Text → List Text → Prop
  | nil      : Asks [] []
  | attached : Asks args values → Asks (("--palette=".toList ++ value) :: args) (value :: values)
  | separate : Asks args values → Asks ("--palette".toList :: value :: args) (value :: values)
  | foreign  : Foreign arg → Asks args values → Asks (arg :: args) values

-- The entries that the values make up are added to the palette.
def Draft.Adds (d : Draft) (values : List Text) (d' : Draft) : Prop :=
  ∃ entries, List.Forall₂ (fun value e => Palette.Entry.parse value = .ok e) values entries ∧
    d'.palette = d.palette ++ entries

-- Of the arguments `args` those are left that are in `args'`. The others have been worked off.
def Draft.WorksOff (d : Draft) (args : List Text) (d' : Draft) (args' : List Text) : Prop :=
  ∃ values, d.Adds values d' ∧ ∀ values', Asks args' values' → Asks args (values ++ values')

-- The arguments that a switch and its value have been, as long as they have not taken effect.
def Pending.arguments : Option Pending → List Text
  | none                 => []
  | some ⟨s, none⟩       => ["--".toList ++ s.long]
  | some ⟨s, some value⟩ => ["--".toList ++ s.long, value]

-- A value of its own does not look like a switch.
def Pending.Plain (pending : Option Pending) : Prop :=
  ∀ s value, pending = some ⟨s, some value⟩ → ¬"--".toList <+: value

namespace Foreign

variable {arg long : Text} {s : Switch}

theorem of_plain (h : ¬"--".toList <+: arg) : Foreign arg where
  switch he         := h (he ▸ by decide)
  attached value he := h (he ▸ ⟨"palette=".toList ++ value, rfl⟩)

theorem of_ofLong? (h : Switch.ofLong? (long.takeWhile (· != '=')) = some s) (hs : s ≠ .palette) :
    Foreign ("--".toList ++ long) where
  switch := by
    intro he
    have he : "--".toList ++ long = "--".toList ++ "palette".toList := he
    have hl := List.append_cancel_left he
    subst hl
    exact hs (Option.some.inj h).symm
  attached := by
    intro value he
    have he : "--".toList ++ long = "--".toList ++ ("palette=".toList ++ value) := he
    have hl := List.append_cancel_left he
    subst hl
    exact hs (Option.some.inj h).symm

end Foreign

-- A command line does not ask for one thing and for another.
theorem Asks.unique {args values values' : List Text} (h : Asks args values)
    (h' : Asks args values') : values = values' := by
  induction h generalizing values'
  case nil =>
    cases h'
    rfl
  case attached ih =>
    cases h'
    case attached h => rw [ih h]
    case foreign hf _ => exact (hf.attached _ rfl).elim
  case separate ih =>
    cases h'
    case separate h => rw [ih h]
    case foreign hf _ => exact (hf.switch rfl).elim
  case foreign hf _ ih =>
    cases h'
    case attached => exact (hf.attached _ rfl).elim
    case separate => exact (hf.switch rfl).elim
    case foreign h => exact ih h

namespace Draft

variable {d d₁ d₂ d' : Draft} {args args₁ args₂ args' : List Text} {s : Switch} {value : Text}

theorem Adds.nil (h : d'.palette = d.palette) : d.Adds [] d' :=
  ⟨[], .nil, by rw [h, List.append_nil]⟩

theorem Adds.append {values values' : List Text} (h : d.Adds values d₁) (h' : d₁.Adds values' d') :
    d.Adds (values ++ values') d' := by
  have ⟨es, hv, he⟩ := h
  have ⟨es', hv', he'⟩ := h'
  exact ⟨es ++ es', List.rel_append hv hv', by rw [he', he, List.append_assoc]⟩

theorem adds_of_set_palette (h : d.set .palette value = .ok d') : d.Adds [value] d' := by
  simp only [set, readEntry, bind_eq_ok_iff, pure_eq_ok_iff] at h
  obtain ⟨e, he, rfl⟩ := h
  split at he
  case h_1 => contradiction
  case h_2 hp =>
    cases he
    exact ⟨_, .cons hp .nil, rfl⟩

theorem adds_of_set (hs : s ≠ .palette) (h : d.set s value = .ok d') : d.Adds [] d' := by
  refine .nil ?_
  cases s <;> simp only [set, bind_eq_ok_iff, pure_eq_ok_iff] at h
  case palette => contradiction
  case verbose | quiet | help | version => rw [h]
  all_goals
    obtain ⟨_, _, rfl⟩ := h
    rfl

theorem adds_of_apply (h : d.apply s = .ok d') : d.Adds [] d' := by
  unfold apply at h
  split at h
  case h_1 | h_2 => contradiction
  case h_3 =>
    cases h
    exact .nil rfl

theorem WorksOff.refl (h : d.Adds [] d') (args : List Text) : d.WorksOff args d' args :=
  ⟨[], h, fun _ hv => hv⟩

theorem WorksOff.trans (h : d.WorksOff args d₁ args₁) (h' : d₁.WorksOff args₁ d' args') :
    d.WorksOff args d' args' := by
  have ⟨values, ha, hw⟩ := h
  have ⟨values', ha', hw'⟩ := h'
  refine ⟨values ++ values', ha.append ha', fun rest hr => ?_⟩
  rw [List.append_assoc]
  exact hw _ (hw' rest hr)

theorem WorksOff.foreign {arg : Text} (hf : Foreign arg) (h : d.Adds [] d') :
    d.WorksOff (arg :: args) d' args :=
  ⟨[], h, fun _ hv => .foreign hf hv⟩

end Draft

theorem Pending.plain_none : Plain none :=
  fun _ _ h => nomatch h

variable {d d' : Draft} {pending pending' : Option Pending} {args : List Text}

theorem worksOff_of_settle (hp : Pending.Plain pending) (h : settle d pending = .ok d')
    (args : List Text) : d.WorksOff (Pending.arguments pending ++ args) d' args := by
  unfold settle at h
  split at h
  case h_1 =>
    cases h
    exact .refl (.nil rfl) args
  case h_2 => contradiction
  case h_3 s value =>
    by_cases hs : s = .palette
    case pos =>
      subst hs
      exact ⟨[value], Draft.adds_of_set_palette h, fun _ hv => .separate hv⟩
    case neg =>
      have hl : Foreign ("--".toList ++ s.long) := .of_ofLong? (s := s) (by cases s <;> rfl) hs
      have hv : Foreign value := .of_plain (hp s value rfl)
      exact .trans (.foreign hl (.nil rfl)) (.foreign hv (Draft.adds_of_set hs h))

theorem worksOff_of_applyLetters (hp : Pending.Plain pending) {letters : Text}
    (h : applyLetters d pending letters = .ok d') (args : List Text) :
    d.WorksOff (Pending.arguments pending ++ args) d' args := by
  induction letters generalizing d pending
  case nil => exact worksOff_of_settle hp h args
  case cons c letters ih =>
    unfold applyLetters at h
    split at h
    case h_1 => contradiction
    case h_2 s hs =>
      simp only [bind_eq_ok_iff] at h
      obtain ⟨d₁, h₁, d₂, h₂, h⟩ := h
      have ha := Draft.WorksOff.refl (Draft.adds_of_apply h₂) args
      exact (worksOff_of_settle hp h₁ args).trans (ha.trans (ih Pending.plain_none h))

theorem long_of_ofLong? {name : Text} {s : Switch} (h : Switch.ofLong? name = some s) :
    s.long = name := by
  simpa using List.find?_some h

-- The name of a switch ends at the first equals sign, and the rest is its value.
theorem eq_name_of_attached? {long : Text} (h : attached? long = none) :
    long.takeWhile (· != '=') = long := by
  have hl := List.takeWhile_append_dropWhile (p := (· != '=')) (l := long)
  unfold attached? at h
  split at h
  case h_1 hd => rwa [hd, List.append_nil] at hl
  case h_2    => contradiction

theorem eq_append_of_attached? {long value : Text} (h : attached? long = some value) :
    long = long.takeWhile (· != '=') ++ '=' :: value := by
  have hl := List.takeWhile_append_dropWhile (p := (· != '=')) (l := long)
  unfold attached? at h
  split at h
  case h_1 => contradiction
  case h_2 c rest hd =>
    cases h
    have hc := List.head?_dropWhile_not (· != '=') long
    simp only [hd, List.head?_cons, bne_eq_false_iff_eq] at hc
    rw [hd, hc] at hl
    exact hl.symm

theorem worksOff_of_applyLong (hp : Pending.Plain pending) {long : Text}
    (h : applyLong d pending (long.takeWhile (· != '=')) (attached? long) = .ok (d', pending'))
    (args : List Text) :
    Pending.Plain pending' ∧
      d.WorksOff (Pending.arguments pending ++ ("--".toList ++ long) :: args) d'
        (Pending.arguments pending' ++ args) := by
  unfold applyLong at h
  split at h
  case h_1 => contradiction
  case h_2 s hs =>
    split at h
    case h_3 => contradiction
    case h_1 value ht ha =>
      simp only [bind_eq_ok_iff, pure_eq_ok_iff] at h
      obtain ⟨d₁, h₁, d₂, h₂, h⟩ := h
      cases h
      refine ⟨Pending.plain_none, .trans (worksOff_of_settle hp h₁ _) ?_⟩
      by_cases hsp : s = .palette
      case pos =>
        subst hsp
        have hl := eq_append_of_attached? ha
        rw [← long_of_ofLong? hs] at hl
        rw [hl]
        exact ⟨[value], Draft.adds_of_set_palette h₂, fun _ hv => .attached hv⟩
      case neg => exact .foreign (.of_ofLong? hs hsp) (Draft.adds_of_set hsp h₂)
    case h_2 ht ha =>
      simp only [bind_eq_ok_iff, pure_eq_ok_iff] at h
      obtain ⟨d₁, h₁, h⟩ := h
      cases h
      have hl : s.long = long := (long_of_ofLong? hs).trans (eq_name_of_attached? ha)
      rw [← hl]
      exact ⟨fun _ _ h => (nomatch h), worksOff_of_settle hp h₁ _⟩
    case h_4 ht ha =>
      simp only [bind_eq_ok_iff, pure_eq_ok_iff] at h
      obtain ⟨d₁, h₁, d₂, h₂, h⟩ := h
      cases h
      have hsp : s ≠ .palette := by
        rintro rfl
        contradiction
      exact ⟨Pending.plain_none, .trans (worksOff_of_settle hp h₁ _)
        (.foreign (.of_ofLong? hs hsp) (Draft.adds_of_apply h₂))⟩

theorem worksOff_of_scan (hp : Pending.Plain pending) (h : scan d pending args = .ok d') :
    d.WorksOff (Pending.arguments pending ++ args) d' [] := by
  induction args generalizing d pending
  case nil => exact worksOff_of_settle hp h []
  case cons arg args ih =>
    unfold scan at h
    split at h
    case h_1 =>
      split at h
      case h_1 =>
        refine .trans (worksOff_of_settle hp h _) (.foreign ?_ (.nil rfl))
        exact ⟨by decide, fun _ => nofun⟩
      case h_2 => contradiction
    case h_2 long =>
      have ⟨(d₁, pending₁), h₁, h⟩ := bind_eq_ok_iff.mp h
      have ⟨hp₁, hw⟩ := worksOff_of_applyLong hp h₁ args
      exact hw.trans (ih hp₁ h)
    case h_3 c letters _ hc =>
      have ⟨d₁, h₁, h⟩ := bind_eq_ok_iff.mp h
      have hf : Foreign ('-' :: c :: letters) := .of_plain (by simpa [eq_comm] using hc)
      refine .trans (worksOff_of_applyLetters hp h₁ _) (.trans (.foreign hf (.nil rfl)) ?_)
      exact ih Pending.plain_none h
    case h_4 _ hl _ =>
      split at h
      case h_2 => contradiction
      case h_1 s =>
        have hv : ¬"--".toList <+: arg := by
          rintro ⟨long, rfl⟩
          exact hl long rfl
        have hp : Pending.Plain (some ⟨s, some arg⟩) := by
          rintro _ _ ⟨⟩
          exact hv
        exact ih hp h

-- The entries of the palette are what the command line asks for, in its order.
theorem asks_of_parse {args : List Text} {o : Options} (h : parse args = .ok o) :
    ∃ values, Asks args values ∧
      List.Forall₂ (fun value e => Palette.Entry.parse value = .ok e) values o.palette := by
  have ⟨d, hs, hf⟩ := bind_eq_ok_iff.mp h
  have ⟨values, ⟨entries, hv, he⟩, hw⟩ := worksOff_of_scan Pending.plain_none hs
  have ho : o.palette = entries := by
    simp only [Draft.finish] at hf
    split at hf
    case isTrue  => contradiction
    case isFalse =>
      cases hf
      exact he
  have ha := hw [] .nil
  rw [List.append_nil] at ha
  exact ⟨values, ha, ho ▸ hv⟩

end Easel.Options

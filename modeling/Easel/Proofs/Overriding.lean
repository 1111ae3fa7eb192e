import Easel.Program
import Easel.Proofs.CommandLine
import Easel.Proofs.Entry

namespace Easel.Palette

-- The palette with some entries in it that come one after the other.
def withEntries (p : Palette) (es : List Entry) : Palette :=
  es.foldl withEntry p

-- No entry gives a color to the name.
def Unmentioned (name : Text) (es : List Entry) : Prop :=
  ∀ e ∈ es, e.name.normal ≠ name.normal

-- The color that the name is given last.
inductive LastGiven (name : Text) : List Entry → Color → Prop
  | intro : e.name.normal = name.normal → Unmentioned name later →
      LastGiven name (earlier ++ e :: later) e.color

-- The color that a name has after some entries, where it had those of `before` in the beginning.
inductive Means (before : Text → Color → Prop) (es : List Entry) (name : Text) (color : Color) :
    Prop
  | given : LastGiven name es color → Means before es name color
  | kept  : Unmentioned name es → before name color → Means before es name color

inductive BuiltIn (name : Text) : Color → Prop
  | red    : name.normal = "red".toList    → BuiltIn name ⟨255, 0, 0⟩
  | green  : name.normal = "green".toList  → BuiltIn name ⟨0, 255, 0⟩
  | blue   : name.normal = "blue".toList   → BuiltIn name ⟨0, 0, 255⟩
  | yellow : name.normal = "yellow".toList → BuiltIn name ⟨255, 255, 0⟩
  | black  : name.normal = "black".toList  → BuiltIn name ⟨0, 0, 0⟩
  | cyan   : name.normal = "cyan".toList   → BuiltIn name ⟨0, 255, 255⟩

-- A palette that knows the names of some colors, and falls back on another color for all the
-- others.
structure Answers (p : Palette) (means : Text → Color → Prop) (fallback : Color) : Prop where
  known    : ∀ name color, p.get? name = some color ↔ means name color
  unknown  : ∀ name, p.get? name = none ↔ ∀ color, ¬means name color
  resolved : ∀ name color, means name color → (p.resolve name).value = color
  replaced : ∀ name, (∀ color, ¬means name color) → (p.resolve name).value = fallback
  fallback : p.fallback = fallback

-- Palettes that nobody can tell apart, not even by what they write.
structure Alike (p q : Palette) : Prop where
  get?    : ∀ name, p.get? name = q.get? name
  resolve : ∀ name, p.resolve name = q.resolve name

variable {p q : Palette} {e e' : Entry} {es : List Entry} {name : Text} {color fallback : Color}

@[simp]
theorem fallback_withEntries (p : Palette) (es : List Entry) :
    (p.withEntries es).fallback = p.fallback := by
  induction es generalizing p
  case nil          => rfl
  case cons e es ih => exact ih (p.withEntry e)

theorem get?_withEntry (p : Palette) (e : Entry) (name : Text) :
    (p.withEntry e).get? name = if name.normal = e.name.normal then some e.color else p.get? name :=
  p.get?_withColor e.name name e.color

theorem unmentioned_cons :
    Unmentioned name (e :: es) ↔ e.name.normal ≠ name.normal ∧ Unmentioned name es :=
  List.forall_mem_cons

theorem lastGiven_cons :
    LastGiven name (e :: es) color ↔
      LastGiven name es color ∨
        Unmentioned name es ∧ e.name.normal = name.normal ∧ e.color = color := by
  constructor
  case mp =>
    intro h
    generalize hl : e :: es = l at h
    cases h
    case intro later earlier e' hn hu =>
      cases earlier
      case nil =>
        cases hl
        exact .inr ⟨hu, hn, rfl⟩
      case cons _ earlier =>
        cases hl
        exact .inl (.intro hn hu)
  case mpr =>
    rintro (⟨hn, hu⟩ | ⟨hu, hn, rfl⟩)
    · rw [← List.cons_append]
      exact .intro hn hu
    · rw [← List.nil_append (e :: es)]
      exact .intro hn hu

theorem not_lastGiven_nil : ¬LastGiven name [] color := by
  generalize hl : [] = l
  rintro ⟨_, _⟩
  simp at hl

theorem means_iff {before : Text → Color → Prop} :
    Means before es name color ↔
      LastGiven name es color ∨ Unmentioned name es ∧ before name color := by
  constructor
  case mp =>
    rintro (h | ⟨hu, hb⟩)
    · exact .inl h
    · exact .inr ⟨hu, hb⟩
  case mpr =>
    rintro (h | ⟨hu, hb⟩)
    · exact .given h
    · exact .kept hu hb

-- The induction goes along the entries, so the palette is one that has some of them already.
theorem get?_withEntries_eq_some_iff :
    (p.withEntries es).get? name = some color ↔
      Means (fun name color => p.get? name = some color) es name color := by
  induction es generalizing p
  case nil =>
    simp only [means_iff, not_lastGiven_nil, Unmentioned, List.not_mem_nil, false_imp_iff,
      implies_true, true_and, false_or]
    rfl
  case cons e es ih =>
    have hw : p.withEntries (e :: es) = (p.withEntry e).withEntries es := rfl
    simp only [hw, ih, means_iff, lastGiven_cons, unmentioned_cons, get?_withEntry]
    by_cases hn : e.name.normal = name.normal
    case pos => simp [hn]
    case neg => simp [hn, Ne.symm hn]

@[simp]
theorem get?_empty (fallback : Color) (name : Text) : (empty fallback).get? name = none :=
  rfl

theorem get?_standard_eq_some_iff : standard.get? name = some color ↔ BuiltIn name color := by
  have hn : ∀ t ∈ ["red", "green", "blue", "yellow", "black", "cyan"].map String.toList,
      Text.normal t = t := by decide +kernel
  simp only [List.map_cons, List.map_nil, List.forall_mem_cons] at hn
  simp only [standard, List.foldl_cons, List.foldl_nil, get?_withColor, get?_empty, hn]
  constructor
  case mp =>
    intro h
    split at h
    case isTrue hn => exact Option.some.inj h ▸ .cyan hn
    split at h
    case isTrue hn => exact Option.some.inj h ▸ .black hn
    split at h
    case isTrue hn => exact Option.some.inj h ▸ .yellow hn
    split at h
    case isTrue hn => exact Option.some.inj h ▸ .blue hn
    split at h
    case isTrue hn => exact Option.some.inj h ▸ .green hn
    split at h
    case isTrue hn => exact Option.some.inj h ▸ .red hn
    contradiction
  case mpr =>
    intro h
    cases h <;> simp [*]

theorem Means.congr {before before' : Text → Color → Prop}
    (h : ∀ color, before name color ↔ before' name color) :
    Means before es name color ↔ Means before' es name color := by
  rw [means_iff, means_iff, h]

theorem Answers.of_get? {means : Text → Color → Prop} (hf : p.fallback = fallback)
    (h : ∀ name color, p.get? name = some color ↔ means name color) :
    Answers p means fallback where
  known        := h
  unknown name := by simp only [Option.eq_none_iff_forall_ne_some, ne_eq, h]
  resolved name color hm := by rw [resolve_value, (h name color).mpr hm, Option.getD_some]
  replaced name hn := by
    have hu : p.get? name = none := Option.eq_none_iff_forall_ne_some.mpr fun color hc =>
      hn color ((h name color).mp hc)
    rw [resolve_value, hu, Option.getD_none, hf]
  fallback := hf

theorem answers_withEntries {before : Text → Color → Prop}
    (h : ∀ name color, p.get? name = some color ↔ before name color) (es : List Entry) :
    Answers (p.withEntries es) (Means before es) p.fallback :=
  .of_get? (p.fallback_withEntries es) fun name _ =>
    get?_withEntries_eq_some_iff.trans (Means.congr (h name))

theorem answers_standard (es : List Entry) :
    Answers (standard.withEntries es) (Means BuiltIn es) .black :=
  answers_withEntries (fun _ _ => get?_standard_eq_some_iff) es

namespace Alike

theorem of_get? (hf : p.fallback = q.fallback) (h : ∀ name, p.get? name = q.get? name) :
    Alike p q where
  get?         := h
  resolve name := by simp only [Palette.resolve, unknownColor, h, hf]

-- Entries with different names may as well come the other way round.
theorem swap (hn : e.name.normal ≠ e'.name.normal) (p : Palette) (earlier later : List Entry) :
    Alike (p.withEntries (earlier ++ e :: e' :: later))
      (p.withEntries (earlier ++ e' :: e :: later)) := by
  refine .of_get? (by simp only [fallback_withEntries]) fun name => Option.ext fun color => ?_
  have hw (e e' : Entry) : p.withEntries (earlier ++ e :: e' :: later) =
      (((p.withEntries earlier).withEntry e).withEntry e').withEntries later := by
    simp [withEntries]
  rw [hw, hw, get?_withEntries_eq_some_iff, get?_withEntries_eq_some_iff]
  refine Means.congr fun color => ?_
  simp only [get?_withEntry]
  grind

end Alike

theorem withEntry_normal (p : Palette) (e : Entry) :
    p.withEntry ⟨e.name.normal, e.color⟩ = p.withEntry e := by
  simp only [withEntry, withColor, Text.normalized_inj.mpr e.name.normal_normal]

-- Entries are read with their names in normal form, but they are as good as those that were typed.
theorem exists_written {values : List Text} {entries : List Entry}
    (h : List.Forall₂ (fun value e => Entry.parse value = .ok e) values entries) :
    ∃ typed : List Entry,
      List.Forall₂ (fun value e => Entry.Written value e.name e.color) values typed ∧
        ∀ p : Palette, p.withEntries entries = p.withEntries typed := by
  induction h
  case nil => exact ⟨[], .nil, fun _ => rfl⟩
  case cons value e _ _ he _ ih =>
    have ⟨typed, ht, hp⟩ := ih
    have ⟨name, hw, hn⟩ := Entry.written_of_parse he
    refine ⟨⟨name, e.color⟩ :: typed, .cons hw ht, fun p => ?_⟩
    have he : p.withEntry e = p.withEntry ⟨name, e.color⟩ := by
      rw [← withEntry_normal p ⟨name, e.color⟩, hw.named.normal_eq, ← hn]
    exact (hp (p.withEntry e)).trans (congrArg (withEntries · typed) he)

-- A palette goes by the normal forms of names, and the color that a name is given last is the one
-- that counts. This is also true of the colors among the options of a run, which hide the built-in
-- ones, and so of those that are typed on a command line.
theorem withEntries_keeps_last :
    (∀ (fallback : Color) (es : List Entry),
      Answers ((empty fallback).withEntries es) (Means (fun _ _ => False) es) fallback) ∧
    (∀ es : List Entry, Answers (standard.withEntries es) (Means BuiltIn es) .black) ∧
    (∀ (p : Palette) (earlier later : List Entry) (e e' : Entry), e.name.normal ≠ e'.name.normal →
      Alike (p.withEntries (earlier ++ e :: e' :: later))
        (p.withEntries (earlier ++ e' :: e :: later))) ∧
    (∀ o : Options, Answers (Program.palette o) (Means BuiltIn o.palette) .black) ∧
    ∀ (args : List Text) (o : Options), Options.parse args = .ok o →
      (∃ values, Options.Asks args values) ∧ ∀ values, Options.Asks args values →
        ∃ typed, List.Forall₂ (fun value e => Entry.Written value e.name e.color) values typed ∧
          Answers (Program.palette o) (Means BuiltIn typed) .black := by
  refine ⟨?empty, answers_standard, fun p earlier later _ _ hn => .swap hn p earlier later,
    fun o => answers_standard o.palette, ?typed⟩
  case empty =>
    intro fallback es
    exact answers_withEntries (fun _ _ => iff_of_false (by simp) id) es
  case typed =>
    intro args o h
    have ⟨values, ha, hv⟩ := Options.asks_of_parse h
    refine ⟨⟨values, ha⟩, fun values' ha' => ?_⟩
    have ⟨typed, ht, hp⟩ := exists_written (ha.unique ha' ▸ hv)
    have hs := answers_standard typed
    rw [← hp] at hs
    exact ⟨typed, ht, hs⟩

-- The last red is the one that counts, however it is typed.
theorem withEntries_keeps_last_red :
    let odos : Entry := ⟨" ΟΔΟΣ".toList, ⟨1, 2, 3⟩⟩
    let red  : Entry := ⟨"RED".toList, ⟨4, 5, 6⟩⟩
    let args   := ["--palette", "Red=#010203", "-v", "--palette=RED=#040506"].map String.toList
    let values := ["Red=#010203", "RED=#040506"].map String.toList
    Alike (standard.withEntries [odos, red]) (standard.withEntries [red, odos]) ∧
      ∃ o typed, Options.parse args = .ok o ∧ Options.Asks args values ∧
        List.Forall₂ (fun value e => Entry.Written value e.name e.color) values typed ∧
        Answers (Program.palette o) (Means BuiltIn typed) .black ∧
        (Program.palette o).get? "rEd\t".toList = some ⟨4, 5, 6⟩ ∧
        (Program.palette o).get? "blue".toList = some ⟨0, 0, 255⟩ := by
  intro odos red args values
  have ⟨_, _, hs, _, ho⟩ := withEntries_keeps_last
  let o : Options := {
    bind        := "0.0.0.0:8080".toList
    output      := "drawing.svg".toList
    width       := 1000
    height      := 800
    palette     := [⟨"red".toList, ⟨1, 2, 3⟩⟩, ⟨"red".toList, ⟨4, 5, 6⟩⟩]
    maxShapes   := 10000
    readTimeout := none
    color       := .auto
    verbosity   := .warn
  }
  have hp : Options.parse args = .ok o := rfl
  have hf : Options.Foreign "-v".toList := ⟨by decide, fun _ => nofun⟩
  have ha : Options.Asks args values := .separate (.foreign hf (.attached .nil))
  have ⟨typed, hw, hm⟩ := (ho args o hp).right values ha
  exact ⟨hs standard [] [] odos red (by decide +kernel), o, typed, hp, ha, hw, hm,
    by decide +kernel, by decide +kernel⟩

end Easel.Palette

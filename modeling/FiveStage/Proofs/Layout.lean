import FiveStage.Window.Layout
import Mathlib.Data.List.Basic

/-!
# What the widgets say

The widgets that are listed depth first, each with its depth, are those of one tree only. The widgets of a window say
all that is shown of its engine, what stands in the menu, where the slider is and how many windows with charts there
are, and nothing else.

Main statements:
* `Widget.flatten_injective`: a tree of widgets can be told from its listing;
* `Window.layout_eq_iff`: two windows have the same widgets if and only if they show the same;
* `Window.flatten_layout_eq_iff`: so they do if and only if the listings are the same.
-/

namespace FiveStage

namespace Widget

/-- The lines do not go on with a widget that is as deep as this one or deeper. -/
def Ends (depth : Nat) (lines : List WidgetLine) : Prop :=
  ∀ line ∈ lines.head?, line.depth < depth

variable {depth : Nat} {rest rest' : List WidgetLine}

theorem ends_flattenAll (ws : List Widget) (h : Ends depth rest) : Ends (depth + 1) (flattenAll depth ws ++ rest) := by
  intro line hline
  cases ws with
  | nil => exact Nat.lt_succ_of_lt (h line hline)
  | cons w ws =>
    cases w with
    | node kind options placing children =>
      cases hline
      exact Nat.lt_succ_self depth

/-- Lines that do not go on with a widget of some depth are not those of such a widget. -/
theorem flattenAll_cons_append_ne (w : Widget) (ws : List Widget) (h : Ends depth rest) :
    flattenAll depth (w :: ws) ++ rest' ≠ rest := by
  rintro rfl
  cases w with
  | node kind options placing children => exact Nat.lt_irrefl depth (h _ rfl)

mutual

/-- A widget is told from its lines, and so are the lines after it. -/
theorem flatten_append_inj (v w : Widget) {depth : Nat} {rest rest' : List WidgetLine} (h : Ends (depth + 1) rest)
    (h' : Ends (depth + 1) rest') (heq : v.flatten depth ++ rest = w.flatten depth ++ rest') :
    v = w ∧ rest = rest' := by
  cases v with
  | node kind options placing children =>
    cases w with
    | node kind' options' placing' children' =>
      obtain ⟨hline, hlines⟩ := List.cons.inj heq
      obtain ⟨rfl, -, rfl, rfl⟩ := WidgetLine.mk.inj hline
      obtain ⟨rfl, rfl⟩ := flattenAll_append_inj children children' h h' hlines
      exact ⟨rfl, rfl⟩

/-- Widgets are told from their lines if no more widgets follow, and so are the lines after them. -/
theorem flattenAll_append_inj (vs ws : List Widget) {depth : Nat} {rest rest' : List WidgetLine} (h : Ends depth rest)
    (h' : Ends depth rest') (heq : flattenAll depth vs ++ rest = flattenAll depth ws ++ rest') :
    vs = ws ∧ rest = rest' := by
  cases vs with
  | nil =>
    cases ws with
    | nil => exact ⟨rfl, heq⟩
    | cons w ws => exact absurd heq.symm (flattenAll_cons_append_ne w ws h)
  | cons v vs =>
    cases ws with
    | nil => exact absurd heq (flattenAll_cons_append_ne v vs h')
    | cons w ws =>
      rw [flattenAll, flattenAll, List.append_assoc, List.append_assoc] at heq
      obtain ⟨rfl, hlines⟩ := flatten_append_inj v w (ends_flattenAll vs h) (ends_flattenAll ws h') heq
      obtain ⟨rfl, rfl⟩ := flattenAll_append_inj vs ws h h' hlines
      exact ⟨rfl, rfl⟩

end

theorem ends_nil : Ends depth [] := nofun

/-- **The listing.** A tree of widgets can be told from its lines. -/
theorem flatten_injective (depth : Nat) : Function.Injective (flatten depth) := fun v w h =>
  (flatten_append_inj v w ends_nil ends_nil (congrArg (· ++ []) h)).1

end Widget

/-! ## The parts of the window -/

namespace Window

open Widget

theorem label_inj {text text' : String} {options options' placing placing' : List (String × Json)} :
    label text options placing = label text' options' placing' ↔
      text = text' ∧ options = options' ∧ placing = placing' := by
  simp [label, and_assoc]

theorem colour_inj {c c' : Option String} : colour c = colour c' ↔ c = c' := by
  cases c <;> cases c' <;> simp [colour]

theorem tableCell_injective (column : Nat) : Function.Injective fun cell => tableCell cell column := by
  rintro ⟨text, code⟩ ⟨text', code'⟩ h
  obtain ⟨rfl, hoptions, -⟩ := label_inj.1 h
  rw [List.append_cancel_right_eq] at hoptions
  obtain rfl : code = code' := by simpa [colour_inj] using hoptions
  rfl

/-- Parts that are shown one after another can be told if the first of them always can. -/
theorem flatMap_zipIdx_injective {α : Type} {f : α → Nat → List Widget} (hne : ∀ a n, f a n ≠ [])
    (hf : ∀ a b n rest rest', f a n ++ rest = f b n ++ rest' → a = b ∧ rest = rest') (start : Nat) :
    Function.Injective fun xs : List α => (xs.zipIdx start).flatMap fun x => f x.1 x.2 := by
  intro xs
  induction xs generalizing start with
  | nil =>
    intro ys h
    cases ys with
    | nil => rfl
    | cons y ys => exact absurd (List.append_eq_nil_iff.1 h.symm).1 (hne y start)
  | cons x xs ih =>
    intro ys h
    cases ys with
    | nil => exact absurd (List.append_eq_nil_iff.1 h).1 (hne x start)
    | cons y ys =>
      obtain ⟨rfl, hrest⟩ := hf x y start _ _ h
      rw [ih (start + 1) hrest]

theorem tableRow_injective : Function.Injective tableRow := by
  intro cells cells' h
  have hcells : (cells.zipIdx.map fun x => tableCell x.1 x.2) = cells'.zipIdx.map fun x => tableCell x.1 x.2 := by
    simpa [tableRow, frame] using h
  rw [List.map_eq_flatMap, List.map_eq_flatMap] at hcells
  refine flatMap_zipIdx_injective (f := fun cell column => [tableCell cell column]) ?_ ?_ 0 hcells
  · exact fun _ _ => List.cons_ne_nil _ _
  · intro a b column rest rest' h
    obtain ⟨hcell, hrest⟩ := List.cons.inj h
    exact ⟨tableCell_injective column hcell, hrest⟩

theorem statLines_injective : Function.Injective fun lines : List (String × String) =>
    lines.zipIdx.flatMap fun x => statLine x.1 x.2 := by
  refine flatMap_zipIdx_injective (f := statLine) ?_ ?_ 0
  · exact fun _ _ => List.cons_ne_nil _ _
  · intro a b row rest rest' h
    obtain ⟨hname, htail⟩ := List.cons.inj h
    obtain ⟨hvalue, hrest⟩ := List.cons.inj htail
    exact ⟨Prod.ext (label_inj.1 hname).1 (label_inj.1 hvalue).1, hrest⟩

theorem cellLine_injective (width : Int) : Function.Injective (cellLine width) := by
  rintro ⟨name, value, code⟩ ⟨name', value', code'⟩ h
  simpa [cellLine, frame, label_inj, colour_inj, and_comm, and_assoc] using h

theorem hazardRow_injective : Function.Injective hazardRow := fun _ _ h => (label_inj.1 h).1

theorem leftHalf_inj {v w : Window} : v.leftHalf = w.leftHalf ↔
    v.menu = w.menu ∧ v.run.seen.status = w.run.seen.status ∧ v.run.seen.shown.rows = w.run.seen.shown.rows := by
  simp [leftHalf, frame, scrollable, label_inj, (List.map_injective_iff.2 tableRow_injective).eq_iff, and_assoc]

theorem controls_inj {v w : Window} : v.controls = w.controls ↔ v.run.seen.play = w.run.seen.play := by
  simp [controls, frame, button]

theorem options_inj {v w : Window} : v.options = w.options ↔
    v.slider = w.slider ∧ v.run.seen.shown.cycle = w.run.seen.shown.cycle := by
  simp [Window.options, frame, label_inj]

theorem rightHalf_inj {v w : Window} : v.rightHalf = w.rightHalf ↔
    v.controls = w.controls ∧ v.options = w.options ∧ v.run.seen.shown.stats = w.run.seen.shown.stats ∧
      v.run.seen.shown.registers = w.run.seen.shown.registers ∧ v.run.seen.shown.memory = w.run.seen.shown.memory ∧
      v.run.seen.shown.hazards = w.run.seen.shown.hazards := by
  simp [rightHalf, frame, scrollable, page, tab, statLines_injective.eq_iff,
    (List.map_injective_iff.2 (cellLine_injective _)).eq_iff, (List.map_injective_iff.2 hazardRow_injective).eq_iff]

/-- **The widgets.** Two windows have the same widgets if and only if they show the same of their engines, the same is
chosen in the menu and with the slider, and as many windows with charts are open. -/
theorem layout_eq_iff {v w : Window} :
    v.layout = w.layout ↔ v.run.seen = w.run.seen ∧ v.menu = w.menu ∧ v.slider = w.slider ∧ v.charts = w.charts := by
  have hlayout : v.layout = w.layout ↔ v.leftHalf = w.leftHalf ∧ v.rightHalf = w.rightHalf ∧ v.charts = w.charts := by
    simp [layout]
  rw [hlayout, leftHalf_inj, rightHalf_inj, controls_inj, options_inj]
  constructor
  · rintro ⟨⟨hmenu, hstatus, hrows⟩, ⟨hplay, ⟨hslider, hcycle⟩, hstats, hregisters, hmemory, hhazards⟩, hcharts⟩
    refine ⟨?_, hmenu, hslider, hcharts⟩
    rw [Face.mk.injEq, Shown.mk.injEq]
    exact ⟨⟨hrows, hstats, hregisters, hmemory, hhazards, hcycle⟩, hplay, hstatus⟩
  · rintro ⟨hseen, hmenu, hslider, hcharts⟩
    simp [hseen, hmenu, hslider, hcharts]

/-- So they have if and only if the listings of their widgets are the same. -/
theorem flatten_layout_eq_iff {v w : Window} : v.layout.flatten 0 = w.layout.flatten 0 ↔
    v.run.seen = w.run.seen ∧ v.menu = w.menu ∧ v.slider = w.slider ∧ v.charts = w.charts :=
  (flatten_injective 0).eq_iff.trans layout_eq_iff

end Window

end FiveStage

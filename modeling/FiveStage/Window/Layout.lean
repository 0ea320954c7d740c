import FiveStage.Window

/-!
# The layout of the window

The widgets of the window as a tree: the kind of each widget, the options it has, how it is placed in its parent, and
its children in the order in which they were made. The widgets are listed depth first, each with its depth.
-/

namespace FiveStage

/-- The kinds of widgets. -/
inductive WidgetKind
  | window
  | popup
  | frame
  | scrollFrame
  | label
  | button
  | switch
  | menu
  | editor
  | slider
  | notebook
  | page
  | canvas
  deriving DecidableEq, Repr

/-- A widget: its kind, its options, the calls that place it, and its children. -/
inductive Widget
  | node (kind : WidgetKind) (options : List (String × Json)) (placing : List (String × Json)) (children : List Widget)

/-- A widget with its depth, without its children. -/
structure WidgetLine where
  kind : WidgetKind
  depth : Nat
  options : List (String × Json)
  placing : List (String × Json)

namespace Widget

mutual

/-- The widget and those below it, depth first. -/
def flatten (depth : Nat) : Widget → List WidgetLine
  | node kind options placing children => ⟨kind, depth, options, placing⟩ :: flattenAll (depth + 1) children

/-- The widgets and those below them, depth first. -/
def flattenAll (depth : Nat) : List Widget → List WidgetLine
  | [] => []
  | w :: ws => w.flatten depth ++ flattenAll depth ws

end

/-! ## Placing -/

/-- Packed into the parent. -/
def pack (options : List (String × Json)) : String × Json :=
  ("pack", .object options)

/-- In a cell of the grid of the parent. -/
def grid (row column : Nat) (options : List (String × Json)) : String × Json :=
  ("grid", .object ([("row", .int row), ("column", .int column)] ++ options))

/-- A column of the own grid that takes its share of the width. -/
def sharedColumn (index : Nat) : String × Json :=
  ("column", .object [("index", .int index), ("weight", .int 1)])

/-- The pair of a small and of a larger distance. -/
def distances (before after : Int) : Json :=
  .array [.int before, .int after]

/-- Space on the left and right. -/
def padX (n : Int) : String × Json := ("padx", .int n)

/-- Space above and below. -/
def padY (n : Int) : String × Json := ("pady", .int n)

/-- Fills the space in a direction. -/
def fill (direction : String) : String × Json := ("fill", .string direction)

/-- Takes all space that is left. -/
def expand : String × Json := ("expand", .bool true)

/-- Sticks to a side of its cell. -/
def sticky (side : String) : String × Json := ("sticky", .string side)

/-! ## Kinds of widgets -/

/-- A plain frame. -/
def frame (options placing : List (String × Json)) (children : List Widget) : Widget :=
  node .frame options placing children

/-- A frame that scrolls. -/
def scrollable (options placing : List (String × Json)) (children : List Widget) : Widget :=
  node .scrollFrame options placing children

/-- A text. -/
def label (text : String) (options placing : List (String × Json)) : Widget :=
  node .label (("text", .string text) :: options) placing []

/-- The heading of a part of the window. -/
def heading (text : String) (space : Json) : Widget :=
  label text [("font", .object [("size", .int 16), ("weight", .string "bold")])] [pack [("pady", space)]]

/-- A button. -/
def button (text : String) (options placing : List (String × Json)) : Widget :=
  node .button ([("text", .string text)] ++ options ++ [("command", .bool true)]) placing []

/-- A switch. -/
def switch (text : String) (column : Nat) : Widget :=
  node .switch [("text", .string text), ("command", .bool true)] [grid 0 column [padX 5, padY 5, sticky "w"]] []

/-- A page of a notebook. -/
def tab (name : String) (children : List Widget) : Widget :=
  node .page [("text", .string name)] [] children

/-- A colour, or none. -/
def colour : Option String → Json
  | some code => .string code
  | none => .null

end Widget

namespace Window

open Widget

/-- The columns of the pipeline table. -/
def columns : List (String × String) :=
  ("Cycle", Shown.clear) :: Stage.all.map fun stage => (stage.name, Chart.stageColour stage)

/-- The columns share the width evenly. -/
def evenColumns : List (String × Json) :=
  (List.range columns.length).map sharedColumn

/-- The heads of the columns. -/
def tableHead : Widget :=
  frame [] (pack [fill "x", padX 5, ("pady", distances 5 0)] :: evenColumns)
    (columns.zipIdx.map fun ((name, code), column) =>
      label name
        [("width", .int 110), ("fg_color", .string code), ("corner_radius", .int 6),
          ("font", .object [("weight", .string "bold")])]
        [grid 0 column [padX 2, padY 2]])

/-- One cell of the pipeline table; all but the first have round corners. -/
def tableCell (cell : Tinted) (column : Nat) : Widget :=
  label cell.text
    ([("width", .int 110), ("fg_color", colour cell.colour)] ++ if column = 0 then [] else [("corner_radius", .int 6)])
    [grid 0 column [padX 2]]

/-- One row of the pipeline table. -/
def tableRow (cells : List Tinted) : Widget :=
  frame [] (pack [fill "x", padY 1] :: evenColumns) (cells.zipIdx.map fun (cell, column) => tableCell cell column)

/-- One line of the statistics. -/
def statLine (line : String × String) (row : Nat) : List Widget :=
  [label line.1 [] [grid row 0 [sticky "w", padX 5]], label line.2 [] [grid row 1 [sticky "e", padX 5]]]

/-- One register or word. -/
def cellLine (labelWidth : Int) (cell : CellRow) : Widget :=
  frame [("fg_color", colour cell.colour)] [pack [fill "x", padY 1]]
    [label cell.label [("width", .int labelWidth)] [grid 0 0 [sticky "w", padX 5]],
      label cell.value [("width", .int 100)] [grid 0 1 [sticky "e", padX 5]]]

/-- One hazard. -/
def hazardRow (line : String) : Widget :=
  label line [("anchor", .string "w"), ("wraplength", .int 330), ("justify", .string "left")] [pack [fill "x", padX 5]]

/-- The left half: the program and the pipeline table. -/
def leftHalf (w : Window) : Widget :=
  frame [] [pack [("side", .string "left"), fill "both", expand, padX 10, padY 10]]
    [heading "Program" (distances 10 5),
      frame [] [pack [fill "x", padX 5]]
        [node .menu
            [("values", .array (Samples.names.map .string)), ("command", .bool true), ("value", .string w.menu)]
            [grid 0 0 [padX 5, padY 5]] [],
          button "Load Program" [] [grid 0 1 [padX 5, padY 5]],
          label w.run.seen.status [] [grid 0 2 [padX 5, padY 5, sticky "w"]]],
      node .editor
        [("height", .int 160), ("font", .object [("family", .string "Courier"), ("size", .int 13)])]
        [pack [fill "x", padX 5, padY 5]] [],
      heading "Pipeline Execution" (.int 10),
      tableHead,
      scrollable [] [pack [fill "both", expand, padX 5, padY 5]] (w.run.seen.shown.rows.map tableRow)]

/-- The buttons. -/
def controls (w : Window) : Widget :=
  frame [] [pack [fill "x", padY 5]]
    [button w.run.seen.play [] [grid 0 0 [padX 5, padY 5]],
      button "Step →" [] [grid 0 1 [padX 5, padY 5]],
      button "Reset" [("fg_color", .string "#e74c3c"), ("hover_color", .string "#c0392b")]
        [grid 1 0 [padX 5, padY 5]],
      button "Export" [] [grid 1 1 [padX 5, padY 5]]]

/-- The switches, the slider and the clock. -/
def options (w : Window) : Widget :=
  frame [] [pack [fill "x", padY 5]]
    [switch "Forwarding" 0,
      switch "Branch prediction" 1,
      label "Speed:" [] [grid 1 0 [padX 5, padY 5, sticky "w"]],
      node .slider
        [("from_", .int 1), ("to", .int 10), ("number_of_steps", .int 9), ("command", .bool true), ("value", w.slider)]
        [grid 1 1 [padX 5, padY 5, sticky "ew"]] [],
      label w.run.seen.shown.cycle [] [grid 2 0 [("columnspan", .int 2), padY 5]]]

/-- The page with a list of rows. -/
def page (name : String) (rows : List Widget) : Widget :=
  tab name [scrollable [] [pack [fill "both", expand]] rows]

/-- The right half: the controls, the statistics and the storage. -/
def rightHalf (w : Window) : Widget :=
  let shown := w.run.seen.shown
  frame [] [pack [("side", .string "right"), fill "both", padX 10, padY 10]]
    [scrollable [("width", .int 380)] [pack [fill "both", expand]]
      [heading "Simulation Controls" (distances 10 10),
        w.controls,
        w.options,
        heading "Performance Statistics" (.int 10),
        frame [] [pack [fill "x", padY 5]] (shown.stats.zipIdx.flatMap fun (line, row) => statLine line row),
        button "Show Charts" [] [pack [padY 10, fill "x"]],
        node .notebook [] [pack [fill "both", expand, padY 10]]
          [page "Registers" (shown.registers.map (cellLine 80)),
            page "Memory" (shown.memory.map (cellLine 120)),
            page "Hazards" (shown.hazards.map hazardRow)]]]

/-- The title and size of the window. -/
def frameOptions : List (String × Json) :=
  [("title", .string "Pipeline Hazard Simulator"), ("geometry", .string "1200x780")]

/-- The title of a window with charts. -/
def chartsTitle : String := "Pipeline Charts"

/-- The size of a window with charts. -/
def chartsGeometry : String := "900x600"

/-- How the canvas of a chart is placed. -/
def canvasPlacing : List (String × Json) :=
  [pack [fill "both", expand]]

/-- A window with a page for each chart. -/
def chartsWindow : Widget :=
  node .popup [("title", .string chartsTitle), ("geometry", .string chartsGeometry)] []
    [node .notebook [] [pack [fill "both", expand, padX 10, padY 10]]
      (Chart.names.map fun name => tab name [node .canvas [] canvasPlacing []])]

/-- All widgets of the window. -/
def layout (w : Window) : Widget :=
  node .window frameOptions [] ([w.leftHalf, w.rightHalf] ++ List.replicate w.charts chartsWindow)

end Window

end FiveStage

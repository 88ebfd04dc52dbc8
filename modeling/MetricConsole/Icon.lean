import MetricConsole.Catalog.Vocabulary

/-!
# Icons

Each icon is a drawing of strokes on a square of 24 units.  A name that no icon has stands for a
clock.
-/

namespace MetricConsole

/-- A picture in the menu or on a button. -/
inductive Icon where
  | dashboard
  | list
  | profile
  | database
  | partition
  | layers
  | upload
  | calendar
  | settings
  | edit
  | plus
  | delete
  | arrowLeft
  | menu
  deriving DecidableEq, Repr

instance : Vocabulary Icon where
  all := [.dashboard, .list, .profile, .database, .partition, .layers, .upload, .calendar,
    .settings, .edit, .plus, .delete, .arrowLeft, .menu]
  word
    | .dashboard => "dashboard"
    | .list => "list"
    | .profile => "profile"
    | .database => "database"
    | .partition => "partition"
    | .layers => "layers"
    | .upload => "upload"
    | .calendar => "calendar"
    | .settings => "settings"
    | .edit => "edit"
    | .plus => "plus"
    | .delete => "delete"
    | .arrowLeft => "arrow-left"
    | .menu => "menu"

/-- One figure of a drawing. -/
structure Stroke where
  tag : String
  attributes : List (String × String)
  deriving DecidableEq, Repr

/-- A drawing of some width and height. -/
structure Drawing where
  size : Nat
  strokes : List Stroke
  deriving DecidableEq, Repr

namespace Drawing

/-- A line along a path. -/
def path (d : String) : Stroke := ⟨"path", [("d", d)]⟩

/-- A line through points. -/
def polyline (points : String) : Stroke := ⟨"polyline", [("points", points)]⟩

/-- A rectangle with round corners. -/
def rect (x y width height rx : String) : Stroke :=
  ⟨"rect", [("x", x), ("y", y), ("width", width), ("height", height), ("rx", rx)]⟩

/-- An ellipse. -/
def ellipse (cx cy rx ry : String) : Stroke :=
  ⟨"ellipse", [("cx", cx), ("cy", cy), ("rx", rx), ("ry", ry)]⟩

/-- A circle. -/
def circle (cx cy r : String) : Stroke := ⟨"circle", [("cx", cx), ("cy", cy), ("r", r)]⟩

/-- The attributes of a drawing as a whole. -/
def attributes (d : Drawing) : List (String × String) :=
  [("width", Nat.repr d.size), ("height", Nat.repr d.size), ("viewBox", "0 0 24 24"),
    ("fill", "none"), ("stroke", "currentColor"), ("stroke-width", "2"),
    ("stroke-linecap", "round"), ("stroke-linejoin", "round"), ("aria-hidden", "true")]

/-- The clock. -/
def fallback : Drawing := ⟨20, [circle "12" "12" "10", path "M12 8v4l3 3"]⟩

end Drawing

open Drawing in
/-- The drawing of an icon. -/
def Icon.drawing : Icon → Drawing
  | .dashboard =>
    ⟨20, [rect "3" "3" "7" "9" "1",
      rect "14" "3" "7" "5" "1",
      rect "14" "12" "7" "9" "1",
      rect "3" "16" "7" "5" "1"]⟩
  | .list =>
    ⟨20, [path "M8 6h13",
      path "M8 12h13",
      path "M8 18h13",
      path "M3 6h.01",
      path "M3 12h.01",
      path "M3 18h.01"]⟩
  | .profile =>
    ⟨20, [path "M14 2H6a2 2 0 0 0-2 2v16a2 2 0 0 0 2 2h12a2 2 0 0 0 2-2V8z",
      path "M14 2v6h6",
      path "M8 13h8",
      path "M8 17h5"]⟩
  | .database =>
    ⟨20, [ellipse "12" "5" "9" "3",
      path "M3 5v14c0 1.66 4 3 9 3s9-1.34 9-3V5",
      path "M3 12c0 1.66 4 3 9 3s9-1.34 9-3"]⟩
  | .partition =>
    ⟨20, [rect "9" "2" "6" "6" "1",
      rect "2" "16" "6" "6" "1",
      rect "16" "16" "6" "6" "1",
      path "M12 8v4",
      path "M5 16v-4h14v4"]⟩
  | .layers =>
    ⟨20, [path "M12 2 2 7l10 5 10-5z", path "m2 17 10 5 10-5", path "m2 12 10 5 10-5"]⟩
  | .upload =>
    ⟨20, [path "M21 15v4a2 2 0 0 1-2 2H5a2 2 0 0 1-2-2v-4",
      polyline "17 8 12 3 7 8",
      path "M12 3v12"]⟩
  | .calendar =>
    ⟨20, [rect "3" "4" "18" "18" "2", path "M16 2v4", path "M8 2v4", path "M3 10h18"]⟩
  | .settings =>
    ⟨20, [circle "12" "12" "3",
      path ("M19.4 15a1.65 1.65 0 0 0 .33 1.82l.06.06a2 2 0 1 1-2.83 2.83l-.06-.06a1.65 1.65" ++
        " 0 0 0-1.82-.33 1.65 1.65 0 0 0-1 1.51V21a2 2 0 1 1-4 0v-.09a1.65 1.65 0 0" ++
        " 0-1-1.51 1.65 1.65 0 0 0-1.82.33l-.06.06a2 2 0 1 1-2.83-2.83l.06-.06a1.65 1.65" ++
        " 0 0 0 .33-1.82 1.65 1.65 0 0 0-1.51-1H3a2 2 0 1 1 0-4h.09a1.65 1.65 0 0 0" ++
        " 1.51-1 1.65 1.65 0 0 0-.33-1.82l-.06-.06a2 2 0 1 1 2.83-2.83l.06.06a1.65 1.65 0" ++
        " 0 0 1.82.33H9a1.65 1.65 0 0 0 1-1.51V3a2 2 0 1 1 4 0v.09a1.65 1.65 0 0 0 1 1.51" ++
        " 1.65 1.65 0 0 0 1.82-.33l.06-.06a2 2 0 1 1 2.83 2.83l-.06.06a1.65 1.65 0 0" ++
        " 0-.33 1.82V9a1.65 1.65 0 0 0 1.51 1H21a2 2 0 1 1 0 4h-.09a1.65 1.65 0 0 0-1.51" ++
        " 1z")]⟩
  | .edit =>
    ⟨16, [path "M12 20h9", path "M16.5 3.5a2.12 2.12 0 0 1 3 3L7 19l-4 1 1-4z"]⟩
  | .plus =>
    ⟨16, [path "M12 5v14", path "M5 12h14"]⟩
  | .delete =>
    ⟨16, [polyline "3 6 5 6 21 6",
      path "M19 6l-1 14a2 2 0 0 1-2 2H8a2 2 0 0 1-2-2L5 6",
      path "M10 11v6",
      path "M14 11v6"]⟩
  | .arrowLeft =>
    ⟨16, [path "M19 12H5", polyline "12 19 5 12 12 5"]⟩
  | .menu =>
    ⟨20, [path "M3 12h18", path "M3 6h18", path "M3 18h18"]⟩

/-- The drawing of the icon with a name. -/
def Drawing.ofName (name : String) : Drawing :=
  ((Vocabulary.ofWord? Icon name).map Icon.drawing).getD .fallback

end MetricConsole

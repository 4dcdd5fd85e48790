import StatusWall.Board.Edit

/-!
# The edit panel

Beside the canvas stands a panel with three groups: the board's own settings, the list of its
elements, and the settings of the chosen element. What the user types stays in the panel's fields
until it is taken over, so a half-typed filter restarts nothing.

The fields about an element are loaded when another widget is chosen (`Panel.sync`), and not when
the element changes while it is chosen. `Panel.texts` is everything the panel shows, in order.
-/

namespace StatusWall

open StatusWall.Geometry

/-- What the panel's fields hold. -/
structure Panel where
  dashboardTitle : String
  background : String
  uploadPath : String := ""
  /-- The widget that the fields below were loaded from. -/
  editing : Option WidgetId := none
  title : String := ""
  objectType : ObjectType := .service
  filter : String := ""
  deriving DecidableEq, Repr

namespace Panel

variable {α : Type}

/-- Loads the fields about the board. -/
def refresh (p : Panel) (d : Dashboard α) : Panel :=
  { p with dashboardTitle := d.title, background := d.background }

/-- The panel of a board that was just opened. -/
def new (d : Dashboard α) : Panel := { dashboardTitle := d.title, background := d.background }

/-- Loads the fields about an element. The fields stay as they are when there is none. -/
def load (p : Panel) (b : Board α) (id : Option WidgetId) : Panel :=
  match id.bind b.element? with
  | none => { p with editing := id }
  | some e =>
    let check := e.checkOptions?.getD {}
    { p with
      editing := id
      title := e.title
      objectType := (check.objectType.bind ObjectType.parse?).getD .service
      filter := check.filter.getD "" }

/-- Follows the board's choice. -/
def sync (p : Panel) (b : Board α) : Panel :=
  if p.editing = b.selected then p else p.load b b.selected

/-- The file to upload, if one is named. -/
def upload? (p : Panel) : Option String :=
  let path := Text.trim p.uploadPath
  if path.isEmpty then none else some path

/-! ## What the panel shows -/

/-- The group of the board's settings. -/
def dashboardTexts (p : Panel) : List String :=
  ["Dashboard", "Title:", p.dashboardTitle, "Background:", p.background, "Upload",
   "File to upload:", p.uploadPath, "Mute all alerts"]

/-- One row of the list of elements. -/
def rowTexts (title : String) : List String := [title, "↑", "↓", "Duplicate", "Delete"]

/-- The list of elements. -/
def listTexts (b : Board α) : List String :=
  "Elements" :: "New" ::
    if b.widgetIds.isEmpty then ["No elements added"]
    else b.widgetIds.flatMap fun id => rowTexts (((b.element? id).map (·.title)).getD "")

/-- The check whose settings are shown: that of the chosen element. -/
def check? (b : Board α) : Option CheckOptions :=
  (b.selected.bind b.element?).bind Element.checkOptions?

/-- One row of the list of alert sounds. -/
def soundTexts (check : CheckOptions) (state : CheckState) : List String :=
  [state.name ++ ":", (check.sounds.get? state).getD "default", "Upload", "default"]

/-- The settings of the chosen element's check. -/
def checkTexts (p : Panel) (check : CheckOptions) : List String :=
  [p.objectType.name, "Object type", "Filter:", p.filter, "Apply check", "Mute alerts",
   "Alert sounds:"] ++
    p.objectType.severities.flatMap (soundTexts check)

/-- The settings of the chosen element. -/
def elementTexts (p : Panel) (b : Board α) : List String :=
  match b.selected.bind b.element? with
  | none => []
  | some e =>
    ["Element", "Name:", p.title, e.kind.displayName, "Element type"] ++
      match check? b with
      | none => []
      | some check => p.checkTexts check

/-- Everything the panel shows, from the top. -/
def texts (p : Panel) (b : Board α) : List String :=
  p.dashboardTexts ++ listTexts b ++ p.elementTexts b

end Panel

end StatusWall

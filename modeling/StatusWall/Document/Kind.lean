import StatusWall.Json.Doc

/-!
# Kinds of elements

What an element shows. Four kinds show a check and are polled; one is the ticker, a strip as wide
as the canvas. Switching an element to a kind starts it with the kind's own options.
-/

namespace StatusWall

open Json

/-- What an element shows. -/
inductive ElementKind where
  | checkCard
  | checkSvg
  | checkImage
  | checkLine
  | staticText
  | staticSvg
  | image
  | staticTicker
  | video
  | audio
  | clock
  | objectCard
  deriving DecidableEq, Repr

namespace ElementKind

/-- Every kind, in the order the editor offers them. -/
def all : List ElementKind :=
  [.checkCard, .checkSvg, .checkImage, .checkLine, .staticText, .staticSvg, .image, .staticTicker,
   .video, .audio, .clock, .objectCard]

/-- The kind's name in documents. -/
def wireName : ElementKind → String
  | .checkCard => "check-card"
  | .checkSvg => "check-svg"
  | .checkImage => "check-image"
  | .checkLine => "check-line"
  | .staticText => "static-text"
  | .staticSvg => "static-svg"
  | .image => "image"
  | .staticTicker => "static-ticker"
  | .video => "video"
  | .audio => "audio"
  | .clock => "clock"
  | .objectCard => "object-card"

/-- The kind's name in the editor. -/
def displayName : ElementKind → String
  | .checkCard => "Icinga Card"
  | .checkSvg => "Icinga SVG"
  | .checkImage => "Icinga Image"
  | .checkLine => "Icinga Line"
  | .staticText => "Static Text"
  | .staticSvg => "Static SVG"
  | .image => "Image"
  | .staticTicker => "Static Ticker"
  | .video => "Video"
  | .audio => "Audio"
  | .clock => "Clock"
  | .objectCard => "Icinga object (experimental)"

/-- Whether elements of the kind show a check and are polled. -/
def pollsCheck : ElementKind → Bool
  | .checkCard | .checkSvg | .checkImage | .checkLine => true
  | _ => false

/-- Whether elements of the kind are strips as wide as the canvas. -/
def isTicker : ElementKind → Bool
  | .staticTicker => true
  | _ => false

/-- The options an element starts with when it is switched to the kind. -/
def defaultOptions : ElementKind → Fields
  | .checkSvg => Fields.ofList
      [("okSvg", .text "check-circle"), ("okStrokeColor", .text "#0ee16a"),
       ("warningSvg", .text "alert-triangle"), ("warningStrokeColor", .text "#ff9000"),
       ("unknownSvg", .text "help-circle"), ("unknownStrokeColor", .text "#970ee1"),
       ("criticalSvg", .text "alert-octagon"), ("criticalStrokeColor", .text "#ff0019"),
       ("muteAlerts", .bool false)]
  | .checkLine => Fields.ofList
      [("strokeWidth", .number (.natural 4)), ("muteAlerts", .bool false)]
  | .staticText => Fields.ofList
      [("fontSize", .number (.natural 36)), ("text", .text "Hello, world!"),
       ("fontColor", .text "black"), ("backgroundColor", .text "white")]
  | .staticTicker => Fields.ofList
      [("fontSize", .number (.natural 32)), ("text", .text "Hello, world!"),
       ("fontColor", .text "white"), ("backgroundColor", .text "black")]
  | .staticSvg => Fields.ofList
      [("svg", .text "activity"), ("strokeColor", .text "#ffffff")]
  | _ => []

/-- The kind with a given name in documents. -/
def ofWireName? (name : String) : Option ElementKind := all.find? fun k => k.wireName = name

theorem ofWireName?_wireName (k : ElementKind) : ofWireName? k.wireName = some k := by
  cases k <;> decide

/-- Reads a kind by its name. -/
def read (origin : Origin) (d : Doc) : Except Fault ElementKind :=
  d.asVariant origin fun name =>
    match ofWireName? name with
    | some kind => .ok kind
    | none => .error (.misfit (.unknownVariant name (all.map wireName)))

end ElementKind

end StatusWall

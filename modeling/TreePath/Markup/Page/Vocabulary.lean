/-!
# The vocabulary of pages

Which elements a browser treats alike, by name. Besides those of HTML a page may hold elements of
drawings and of formulas, which are of vocabularies of their own; some of their names and attributes
have capitals that the text need not write.

The lists are used by name only, and an element of another vocabulary is never in one of them that
is meant for HTML. Which list decides what is said where it is used.
-/

namespace TreePath.Markup.Page

/-- What an element belongs to. -/
inductive Vocabulary where
  /-- HTML. -/
  | html
  /-- Drawings. -/
  | svg
  /-- Formulas. -/
  | math
deriving DecidableEq, Inhabited, Repr

/-! ### Elements of HTML -/

/-- Elements that bound a scope. -/
def scopeNames : List String :=
  ["applet", "caption", "html", "marquee", "object", "table", "td", "th"]

/-- Elements of drawings that bound a scope. -/
def svgScopeNames : List String := ["foreignObject", "desc", "title"]

/-- Elements of formulas that hold plain text. -/
def mathTextNames : List String := ["mi", "mo", "mn", "ms", "mtext"]

/-- Headings. -/
def headingNames : List String := ["h1", "h2", "h3", "h4", "h5", "h6"]

/-- Elements that give their contents a look. -/
def formattingNames : List String :=
  ["b", "big", "code", "em", "font", "i", "s", "small", "strike", "strong", "tt", "u"]

/-- Elements that are more than a run of text. -/
def specialNames : List String :=
  ["address", "applet", "area", "article", "aside", "base", "basefont", "bgsound", "blockquote",
    "body", "br", "button", "caption", "center", "col", "colgroup", "command", "dd", "details",
    "dir", "div", "dl", "dt", "embed", "fieldset", "figure", "footer", "form", "frame", "frameset",
    "h1", "h2", "h3", "h4", "h5", "h6", "head", "header", "hr", "html", "iframe", "image", "img",
    "input", "isindex", "li", "link", "listing", "marquee", "menu", "meta", "nav", "noembed",
    "noframes", "noscript", "object", "ol", "p", "param", "plaintext", "pre", "script", "section",
    "select", "style", "table", "tbody", "td", "textarea", "tfoot", "th", "thead", "title", "tr",
    "ul", "wbr", "xmp"]

/-- Blocks that end a paragraph. -/
def blockNames : List String :=
  ["address", "article", "aside", "blockquote", "center", "details", "dir", "div", "dl",
    "fieldset", "figcaption", "figure", "footer", "header", "hgroup", "main", "menu", "nav", "ol",
    "p", "section", "summary", "ul"]

/-- Elements whose end tag closes all that is open in them. -/
def closingNames : List String :=
  ["address", "article", "aside", "blockquote", "button", "center", "details", "dialog", "dir",
    "div", "dl", "fieldset", "figcaption", "figure", "footer", "header", "hgroup", "listing",
    "main", "menu", "nav", "ol", "pre", "section", "summary", "ul"]

/-- Elements whose end tag may be left out. -/
def impliedNames : List String := ["dd", "dt", "li", "option", "optgroup", "p", "rp", "rt"]

/-- Elements that hold nothing but parts of a table. -/
def tableNames : List String := ["table", "tbody", "tfoot", "thead", "tr"]

/-- Groups of rows. -/
def rowGroupNames : List String := ["tbody", "tfoot", "thead"]

/-- Parts of a table other than the table. -/
def tablePartNames : List String :=
  ["caption", "col", "colgroup", "tbody", "td", "tfoot", "th", "thead", "tr"]

/-- Elements that a drawing or a formula cannot hold. -/
def breakoutNames : List String :=
  ["b", "big", "blockquote", "body", "br", "center", "code", "dd", "div", "dl", "dt", "em",
    "embed", "h1", "h2", "h3", "h4", "h5", "h6", "head", "hr", "i", "img", "li", "listing", "menu",
    "meta", "nobr", "ol", "p", "pre", "ruby", "s", "small", "span", "strong", "strike", "sub",
    "sup", "table", "tt", "u", "ul", "var"]

/-- Whether an element bounds a scope. -/
def isScope (v : Vocabulary) (name : String) : Bool :=
  match v with
  | .html => scopeNames.contains name
  | .svg => svgScopeNames.contains name
  | .math => mathTextNames.contains name || name == "annotation-xml"

/-- Whether an element is more than a run of text. -/
def isSpecial (v : Vocabulary) (name : String) : Bool :=
  match v with
  | .html => specialNames.contains name
  | .svg => name == "foreignObject"
  | .math => false

/-! ### Names with capitals -/

/-- The elements of drawings that have capitals in their names. -/
def svgNames : List String :=
  ["altGlyph", "altGlyphDef", "altGlyphItem", "animateColor", "animateMotion", "animateTransform",
    "clipPath", "feBlend", "feColorMatrix", "feComponentTransfer", "feComposite",
    "feConvolveMatrix", "feDiffuseLighting", "feDisplacementMap", "feDistantLight", "feFlood",
    "feFuncA", "feFuncB", "feFuncG", "feFuncR", "feGaussianBlur", "feImage", "feMerge",
    "feMergeNode", "feMorphology", "feOffset", "fePointLight", "feSpecularLighting", "feSpotLight",
    "feTile", "feTurbulence", "foreignObject", "glyphRef", "linearGradient", "radialGradient",
    "textPath"]

/-- The attributes of drawings that have capitals in their names. -/
def svgAttributes : List String :=
  ["attributeName", "attributeType", "baseFrequency", "baseProfile", "calcMode", "clipPathUnits",
    "contentScriptType", "contentStyleType", "diffuseConstant", "edgeMode",
    "externalResourcesRequired", "filterRes", "filterUnits", "glyphRef", "gradientTransform",
    "gradientUnits", "kernelMatrix", "kernelUnitLength", "keyPoints", "keySplines", "keyTimes",
    "lengthAdjust", "limitingConeAngle", "markerHeight", "markerUnits", "markerWidth",
    "maskContentUnits", "maskUnits", "numOctaves", "pathLength", "patternContentUnits",
    "patternTransform", "patternUnits", "pointsAtX", "pointsAtY", "pointsAtZ", "preserveAlpha",
    "preserveAspectRatio", "primitiveUnits", "refX", "refY", "repeatCount", "repeatDur",
    "requiredExtensions", "requiredFeatures", "specularConstant", "specularExponent",
    "spreadMethod", "startOffset", "stdDeviation", "stitchTiles", "surfaceScale", "systemLanguage",
    "tableValues", "targetX", "targetY", "textLength", "viewBox", "viewTarget", "xChannelSelector",
    "yChannelSelector", "zoomAndPan"]

/-- The attributes of formulas that have capitals in their names. -/
def mathAttributes : List String := ["definitionURL"]

/-- The attributes that belong to namespaces of their own. -/
def linkAttributes : List String :=
  ["xlink:actuate", "xlink:arcrole", "xlink:href", "xlink:role", "xlink:show", "xlink:title",
    "xlink:type", "xml:base", "xml:lang", "xml:space", "xmlns", "xmlns:xlink"]

/-- The name in a list that differs from a name at most by capitals, or else the name itself. -/
def capitalized (names : List String) (name : String) : String :=
  (names.find? fun n ↦ n.toLower == name).getD name

/-- The name of an element of a vocabulary. -/
def properName : Vocabulary → String → String
  | .svg, name => capitalized svgNames name
  | _, name => name

/-- The attributes of an element of a vocabulary other than HTML. Those of namespaces of their own
come last. -/
def properAttributes (v : Vocabulary) (attributes : List (String × String)) :
    List (String × String) :=
  let names := match v with
    | .html => []
    | .svg => svgAttributes
    | .math => mathAttributes
  let proper := attributes.map fun a ↦ (capitalized names a.1, a.2)
  (proper.filter fun a ↦ !linkAttributes.contains a.1) ++
    proper.filter fun a ↦ linkAttributes.contains a.1

end TreePath.Markup.Page

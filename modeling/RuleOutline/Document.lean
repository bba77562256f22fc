import RuleOutline.Outline
import RuleOutline.Lines

/-! A document: a source text with all that is read off it. -/
namespace RuleOutline

/-- A source text, its lines and tokens, and the outline of these tokens. -/
structure Document where
  source : String
  lines : List Line
  tokens : List Token
  outline : Outline

/-- Reads a source text. Every text can be read. -/
def Document.read (markers : Markers) (source : String) : Document :=
  let tokens := tokenize source
  ⟨source, linesOf source, tokens, outlineOf markers tokens⟩

/-- Where the token with the given index starts. -/
def Document.positionOfToken? (document : Document) (index : Nat) : Option Position :=
  document.tokens[index]?.map fun token => positionOf document.lines token.start

/-- A document that is being edited, with the markers it is read by. -/
structure Session where
  markers : Markers
  document : Document

namespace Session

/-- A session over a source text. -/
def start (markers : Markers) (source : String) : Session :=
  ⟨markers, .read markers source⟩

/-- Reads another source text. Nothing is kept of the one before. -/
def reopen (session : Session) (source : String) : Session :=
  start session.markers source

/-- Replaces the bytes from `first` up to `last` and reads the text anew. -/
def edit (session : Session) (first last : Nat) (text : String) : Session :=
  session.reopen (Text.replaceBytes session.document.source first last text)

/-- Reads the same text by other markers. -/
def setMarkers (session : Session) (markers : Markers) : Session :=
  start markers session.document.source

/-- Gives a rule its findings. They last until a text is read. -/
def setFindings (session : Session) (rule : Nat) (findings : List Finding) : Session :=
  { session with
    document := { session.document with
      outline := session.document.outline.setFindings rule findings } }

end Session

end RuleOutline

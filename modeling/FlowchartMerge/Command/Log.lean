import FlowchartMerge.Comparison.Summary
import FlowchartMerge.Document.Selection
import FlowchartMerge.Text.Quoted
import FlowchartMerge.Command.Basic

/-!
# Messages about the work

What is reported while a command is carried out. Every message has a level, and is
shown when the verbosity reaches it; the messages follow from the texts that are read.
In the message that names the output file a terminal's control characters are written by
number.
-/

set_option autoImplicit false

namespace FlowchartMerge

inductive LogLevel where
  | info
  | debug
  | trace
  deriving DecidableEq, Repr, Inhabited

namespace LogLevel

def name : LogLevel → Text
  | .info => " INFO"
  | .debug => "DEBUG"
  | .trace => "TRACE"

def rank : LogLevel → Nat
  | .info => 1
  | .debug => 2
  | .trace => 3

end LogLevel

structure LogEntry where
  level : LogLevel
  source : Text
  message : Text
  deriving DecidableEq, Repr, Inhabited

namespace LogEntry

def text (e : LogEntry) : Text := e.level.name ++ " " ++ e.source ++ ": " ++ e.message

def row (e : LogEntry) : Text := e.text ++ "\n"

def isShown (v : Verbosity) (e : LogEntry) : Bool := !v.quiet && e.level.rank ≤ v.level

def plainChar (c : Char) : Text :=
  if c = '\x1b' then "\\x1b"
  else if c = '\x07' then "\\x07"
  else if c = '\x08' then "\\x08"
  else if c = '\x0c' then "\\x0c"
  else if c = '\x7f' then "\\x7f"
  else if 0x80 ≤ c.toNat ∧ c.toNat ≤ 0x9F then
    "\\u" ++ ['{'] ++ Nat.toDigits 16 c.toNat ++ ['}']
  else [c]

def field (name : String) (value : Text) : Text := " " ++ name.toList ++ "=" ++ value

def blocksFound (document : Text) : LogEntry :=
  ⟨.debug, "mmdiff::blocks", "extracted mermaid blocks" ++
    field "count" (Numeral.write (Block.ofDocument document).length)⟩

def ofLine? : Line → Option LogEntry
  | .passthrough l =>
    some ⟨.trace, "mmdiff::graph_parser", "passthrough line" ++ field "line" (Text.quoted l)⟩
  | .dangling l =>
    some ⟨.trace, "mmdiff::graph_parser",
      "edge line without endpoint identifiers" ++ field "line" (Text.quoted l)⟩
  | _ => none

def diagramRead (d : Diagram) : LogEntry :=
  ⟨.debug, "mmdiff::graph_parser", "parsed graph" ++
    field "nodes" (Numeral.write d.nodes.size) ++ field "edges" (Numeral.write d.edges.size) ++
    field "other_lines" (Numeral.write d.other.length)⟩

def reading (t : Text) : List LogEntry :=
  ((Line.significant t).map Line.classify).filterMap ofLine? ++ [diagramRead (.read t)]

def compared (c : Comparison) : LogEntry :=
  ⟨.debug, "mmdiff::differ", "classified graph diff" ++ field "summary" c.summary.text⟩

def revisionLoaded (file revision : Text) : LogEntry :=
  ⟨.info, "mmdiff", "loaded committed revision" ++ field "file" file ++
    field "rev" (Text.quoted revision)⟩

def readingCommitted (revision : Text) (a : Address) : LogEntry :=
  ⟨.debug, "mmdiff::history", "reading committed file" ++ field "revision" revision ++
    field "path" a.relative⟩

def saved (path : Text) : LogEntry :=
  ⟨.info, "mmdiff", ("Wrote output to: " ++ path).flatMap plainChar⟩

def comparing (v : Versions) : List LogEntry :=
  reading v.old ++ reading v.new ++
    [compared (.ofDiagrams (.read v.old) (.read v.new))]

def choosing (old new : Text) : List LogEntry := [blocksFound old, blocksFound new]

end LogEntry

end FlowchartMerge

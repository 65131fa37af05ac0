import FlowchartMerge.Text.Basic

/-!
# The web page

A page that shows a diagram in a browser. The diagram is written with the three
characters that markup is made of replaced by entities, so it can neither end its
element nor be read as anything but itself.
-/

set_option autoImplicit false

namespace FlowchartMerge.Page

def escapeChar : Char → Text
  | '&' => "&amp;"
  | '<' => "&lt;"
  | '>' => "&gt;"
  | c => [c]

def escape (t : Text) : Text := t.flatMap escapeChar

def head : Text := Text.joinLines
  ["<!DOCTYPE html>",
   "<html lang=\"en\">",
   "<head>",
   "    <meta charset=\"UTF-8\">",
   "    <meta name=\"viewport\" content=\"width=device-width, initial-scale=1.0\">",
   "    <title>Mermaid Visual Diff</title>",
   "</head>",
   "<body style=\"background-color: white;\">",
   "    <pre class=\"mermaid\">",
   []]

def foot : Text := Text.joinLines
  [[],
   "    </pre>",
   "    <script type=\"module\">",
   "        import mermaid from 'https://cdn.jsdelivr.net/npm/mermaid@10/dist/mermaid.esm.min.mjs';",
   "        mermaid.initialize({ startOnLoad: true });",
   "    </script>",
   "</body>",
   "</html>",
   []]

def render (diagram : Text) : Text := head++escape diagram++foot

end FlowchartMerge.Page

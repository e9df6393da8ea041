namespace LogScript.Markup

/-- One character inside a double-quoted attribute value. -/
def escape (c : Char) : List Char :=
  if c = '&' then "&amp;".toList
  else if c = '"' then "&quot;".toList
  else if c = '<' then "&lt;".toList
  else if c = '>' then "&gt;".toList
  else [c]

/-- A text inside a double-quoted attribute value. -/
def attributeText (s : String) : String := String.ofList (s.toList.flatMap escape)

/-- The two lines that open an inline script. -/
def opening : List String := ["<script type=\"text/javascript\">", "//<![CDATA["]

/-- The two lines that close an inline script. -/
def closing : List String := ["//]]>", "</script>"]

/-- The line that loads a script from an address. -/
def reference (url : String) : String :=
  "<script type=\"text/javascript\" src=\"" ++ attributeText url ++ "\"></script>"

/-- Lines as one text, each ended by a line feed. -/
def ofLines (lines : List String) : String := String.join (lines.map (· ++ "\n"))

end LogScript.Markup

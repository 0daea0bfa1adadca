import Amalgam.Console.Table
/-!
# Printing to the console

Messages of four kinds, headers and tables, either with signs and frames or in plain words. A message is shown as it is;
titles and cells of tables are markup, in both modes.

Markup, styles, wrapping, tables and panels stand for those of rich 15, on a console that is no terminal and so shows no
colours. The results take four facts from them: escaped text is plain and can be shown (`Markup.plain_escape`,
`Markup.Plain.sound`), a message can always be printed (`printMessage_returns`), a table can be printed when its texts
can be shown with styles that can be read (`printTable_returns`), and only when they can be shown
(`shown_of_printTable`).
-/

namespace Amalgam.Console

open Amalgam.Text

/-- The width of everything that is laid out. A console that is no terminal takes its width from `COLUMNS` in the
environment, and this stands for one where that says 200, as the help texts do. -/
def terminalWidth : Nat := 200

/-- Lines as text, none wider than the terminal. -/
def linesText (lines : List Line) : String :=
  String.ofList (lines.flatMap fun l => (l.within terminalWidth).flatten ++ ['\n'])

def styledLines (text : StyledText) : Except MarkupFault String :=
  (segmented (wrap terminalWidth .natural .fold text)).map linesText

def textLines (text : String) : String :=
  linesText ((wrap terminalWidth .natural .fold (.ofText text)).map StyledText.segments)

def markupLines (markup : String) : Except MarkupFault String := do
  styledLines (← Markup.shown markup)

/-- What a message tells. -/
inductive Kind
  | success
  | warning
  | error
  | info
deriving DecidableEq, Repr

def Kind.sign : Kind → String
  | success => "[green]✓[/green] "
  | warning => "[yellow]⚠[/yellow] "
  | error => "[red]✗[/red] "
  | info => "[blue]ℹ[/blue] "

def Kind.word : Kind → String
  | success => "OK: "
  | warning => "Warning: "
  | error => "Error: "
  | info => ""

/-- A line of its own: markup with styles, and plain text without. -/
def printLine (styled : Bool) (text : String) : Except MarkupFault String :=
  if styled then markupLines text else .ok (textLines text)

def printMessage (styled : Bool) (kind : Kind) (message : String) : Except MarkupFault String :=
  printLine styled (if styled then kind.sign ++ Markup.escape message else kind.word ++ message)

/-- A header with a line below it, unless that is empty. -/
def printHeader (styled : Bool) (title : String) (subtitle : Option String) : Except MarkupFault String :=
  let below := subtitle.filter (· != "")
  if styled then do
    let markup := "[bold blue]" ++ Markup.escape title ++ "[/bold blue]" ++
      (below.map fun s => "\n[dim]" ++ Markup.escape s ++ "[/dim]").getD ""
    return linesText (← panelLines terminalWidth .rounded (← Markup.shown markup))
  else .ok (textLines ("\n=== " ++ title ++ " ===") ++ (below.map textLines).getD "")

def printTable (styled : Bool) (t : Table) : Except MarkupFault String :=
  (t.lines terminalWidth (if styled then .heavyHead else .ascii)).map linesText

end Amalgam.Console

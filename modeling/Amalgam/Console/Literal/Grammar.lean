import Amalgam.Console.Literal.Token
/-!
# The grammar of expressions

Arguments are literals, but a text that is an expression of another kind is told from one that is no expression at all, so
the grammar is that of all expressions. Every rule lists its forms in the order in which they are tried, and the first one
that matches is taken. Some forms match only mistakes: they are tried in a second reading, after a first one has failed, and
complain about what they match. Square brackets never occur, since they would end the tag.
-/

namespace Amalgam.Console.Literal

/-! ### Trees -/

/-- What a node of a tree stands for. -/
inductive Shape
  | constant (word : String)
  | tuple | set | dict | pair | unpacking
  | call | attribute | arguments | keyword | starred
  | sum | difference | positive | negative | operation
  | comparison | relation | membership
  | conditional | assignment | awaiting | yielding | function
  | clauses | generator | setOf | dictOf
deriving DecidableEq, Repr

/-- An expression. -/
inductive Tree
  | name (text : String)
  | number (text : List Char)
  | strings (texts : List (List Char))
  | node (shape : Shape) (parts : List Tree)
deriving Repr

namespace Tree

/-- What a complaint calls an expression. -/
def noun : Tree → String
  | name _ => "name"
  | number _ => "literal"
  | strings texts => if texts.any fun t => (t.takeWhile fun c => c != '\'' && c != '"').any fun c => c = 'f' || c = 'F'
      then "f-string expression" else "literal"
  | node shape _ =>
    match shape with
    | .constant word => word
    | .tuple => "tuple"
    | .set => "set display"
    | .dict => "dict literal"
    | .call => "function call"
    | .attribute => "attribute"
    | .starred => "starred"
    | .comparison => "comparison"
    | .conditional => "conditional expression"
    | .assignment => "named expression"
    | .awaiting => "await expression"
    | .yielding => "yield expression"
    | .function => "lambda"
    | .generator => "generator expression"
    | .setOf => "set comprehension"
    | .dictOf => "dict comprehension"
    | _ => "expression"

/-- The commands that once took their arguments without brackets. -/
def command? : Tree → Option String
  | name text => if text = "print" || text = "exec" then some text else none
  | _ => none

mutual

/-- The first part of an expression that nothing can be assigned to. After `for` a membership test is a target and where
its values come from. -/
def notTarget? : Tree → Option Tree
  | name _ => none
  | node .attribute _ => none
  | node .tuple parts => notTargets? parts
  | node .starred parts => notTargets? parts
  | node .comparison (left :: node .membership _ :: _) => notTarget? left
  | node .comparison _ => none
  | t => some t

def notTargets? : List Tree → Option Tree
  | [] => none
  | t :: rest => (notTarget? t).orElse fun _ => notTargets? rest

end

end Tree

/-! ### Forms -/

/-- The names of rules. -/
inductive Rule
  | expressions | expression | quietExpression | disjunction | conjunction | inversion | comparison | compared
  | bitOr | bitXor | bitAnd | shift | sum | term | factor | power | awaiting | primary | atom
  | group | tuple | set | dict | pairs | unpackedPair | pair | setOf | dictOf | generator | clauses | clause
  | targets | target | targetAtom | starAtom | targetPrimary | callAhead
  | arguments | args | keywords | keywordOrStarred | keywordOrUnpacking | starred
  | starNameds | starNamed | named | assignment | yielding | starExpressions | starExpression | strings
  | function | parameters | slashPlain | slashDefault | starParameters | unpackedParameter | plainParameter
  | defaultParameter | anyParameter | default
  | badArguments | badKeyword | badExpression | badCommand | badNamed | badComprehension | badDictOf | badGroup | badPairs
  | badPair | badTarget | badDefault | badParameters | badStarParameters | badUnpackedParameter
deriving DecidableEq, Repr, Hashable

/-- A form that tokens may have. -/
inductive Form
  | mark (text : String)
  | kind (k : Token.Kind)
  | softWord
  | rule (r : Rule)
  | all (parts : List Form)
  | any (choices : List Form)
  | opt (f : Form)
  | many (f : Form)
  /-- A look at what follows. -/
  | ahead (f : Form)
  | lacking (f : Form)
  | node (shape : Shape) (f : Form)
  /-- A form, and tails that each make a node of all that stands before it. -/
  | chain (first : Form) (tails : List (Shape × Form))
  /-- Once the first part has matched, no later choice is tried. -/
  | commit (first rest : Form)
  /-- What matches is a mistake, lacking there is nothing to say about it: then no later choice is tried. The function gets
  the number of open brackets and the trees. -/
  | complain (f : Form) (message : Nat → List Tree → Option String)
  /-- Tried only in a reading that looks for mistakes. -/
  | mistaken (r : Rule)
  /-- Mistakes are not looked for. -/
  | quietly (f : Form)

namespace Form

def name : Form := kind .name

def some1 (f : Form) : Form := all [f, many f]

def list (f : Form) : Form := all [f, many (all [mark ",", f])]

def blame (f : Form) (message : String) : Form := complain f fun _ _ => some message

def operator (op : String) (r : Rule) : Form := all [mark op, rule r]

def tupleOf (r : Rule) : List Form :=
  [node .tuple (all [rule r, some1 (operator "," r), opt (mark ",")]), node .tuple (all [rule r, mark ","]), rule r]

def constant (word : String) : Form := node (.constant word) (mark word)

/-- An expression that gets no value: one with a value is another form. -/
def unassigned : Form := any [rule .assignment, all [rule .expression, lacking (mark ":=")]]

def conditional : Form :=
  node .conditional (all [rule .disjunction, mark "if", rule .disjunction, mark "else", rule .expression])

end Form

/-! ### Complaints -/

def commaMissing : String := "invalid syntax. Perhaps you forgot a comma?"
def equalsMeant : String := "invalid syntax. Maybe you meant '==' or ':=' instead of '='?"
def bareGenerator : String := "Generator expression must be parenthesized"
def bareTarget : String := "did you forget parentheses around the comprehension target?"
def starredValue : String := "cannot use a starred expression in a dictionary value"
def valueMissing : String := "expression expected after dictionary key and ':'"
def afterUnpacked : String := "arguments cannot follow var-keyword argument"

def positional (arguments : List Tree) : List Tree :=
  arguments.filter fun
    | .node .keyword _ => false
    | .node .unpacking _ => false
    | _ => true

def hasUnpacking (arguments : List Tree) : Bool :=
  arguments.any fun
    | .node .unpacking _ => true
    | _ => false

/-! ### Rules -/

open Form

namespace Rule

/-- The rules of expressions, mistakes apart. -/
def form : Rule → Form
  | expressions => any (tupleOf expression)
  | expression => any [mistaken badExpression, mistaken badCommand, conditional, rule disjunction, rule function]
  | quietExpression => quietly (any [conditional, rule disjunction, rule function])
  | disjunction => any [node .operation (all [rule conjunction, some1 (operator "or" conjunction)]), rule conjunction]
  | conjunction => any [node .operation (all [rule inversion, some1 (operator "and" inversion)]), rule inversion]
  | inversion => any [node .operation (operator "not" inversion), rule comparison]
  | comparison => any [node .comparison (all [rule bitOr, some1 (rule compared)]), rule bitOr]
  | compared =>
    any ((["==", "!=", "<=", "<", ">=", ">"].map fun op => node .relation (operator op bitOr)) ++
      [node .relation (all [mark "not", operator "in" bitOr]), node .membership (operator "in" bitOr),
        node .relation (all [mark "is", operator "not" bitOr]), node .relation (operator "is" bitOr)])
  | bitOr => chain (rule bitXor) [(.operation, operator "|" bitXor)]
  | bitXor => chain (rule bitAnd) [(.operation, operator "^" bitAnd)]
  | bitAnd => chain (rule shift) [(.operation, operator "&" shift)]
  | shift => chain (rule sum) [(.operation, operator "<<" sum), (.operation, operator ">>" sum)]
  | sum => chain (rule term) [(.sum, operator "+" term), (.difference, operator "-" term)]
  | term => chain (rule factor) (["*", "/", "//", "%", "@"].map fun op => (.operation, operator op factor))
  | factor =>
    any [node .positive (operator "+" factor), node .negative (operator "-" factor), node .operation (operator "~" factor),
      rule power]
  | power => any [node .operation (all [rule awaiting, operator "**" factor]), rule awaiting]
  | awaiting => any [node .awaiting (operator "await" primary), rule primary]
  | primary =>
    chain (rule atom) [(.attribute, all [mark ".", name]), (.call, rule generator),
      (.call, all [mark "(", opt (rule arguments), mark ")"])]
  | atom =>
    any [name, constant "True", constant "False", constant "None", all [ahead (kind .string), rule strings],
      kind .number, all [ahead (mark "("), any [rule tuple, rule group, rule generator]],
      all [ahead (mark "\x7b"), any [rule dict, rule set, rule dictOf, rule setOf]], node (.constant "ellipsis") (mark "...")]
  | strings => some1 (kind .string)
  | group => any [all [mark "(", any [rule yielding, rule named], mark ")"], mistaken badGroup]
  | tuple => node .tuple (all [mark "(", opt (all [rule starNamed, mark ",", opt (rule starNameds)]), mark ")"])
  | set => node .set (all [mark "\x7b", rule starNameds, mark "\x7d"])
  | dict => any [node .dict (all [mark "\x7b", opt (rule pairs), mark "\x7d"]), all [mark "\x7b", mistaken badPairs, mark "\x7d"]]
  | pairs => all [list (rule unpackedPair), opt (mark ",")]
  | unpackedPair => any [node .unpacking (operator "**" bitOr), rule pair]
  | pair => node .pair (all [rule expression, operator ":" expression])
  | setOf => any [node .setOf (all [mark "\x7b", rule named, rule clauses, mark "\x7d"]), mistaken badComprehension]
  | dictOf => any [node .dictOf (all [mark "\x7b", rule pair, rule clauses, mark "\x7d"]), mistaken badDictOf]
  | generator => any [node .generator (all [mark "(", unassigned, rule clauses, mark ")"]), mistaken badComprehension]
  | clauses => node .clauses (some1 (rule clause))
  | clause =>
    let source := all [rule disjunction, many (operator "if" disjunction)]
    any [commit (all [mark "async", mark "for", rule targets, mark "in"]) source,
      commit (all [mark "for", rule targets, mark "in"]) source, mistaken badTarget]
  | targets =>
    any [all [rule target, lacking (mark ",")], node .tuple (all [rule target, many (operator "," target), opt (mark ",")])]
  | target => any [node .starred (all [mark "*", lacking (mark "*"), rule target]), rule targetAtom]
  | targetAtom => any [node .attribute (all [rule targetPrimary, mark ".", name, lacking (rule callAhead)]), rule starAtom]
  | starAtom =>
    any [name, all [mark "(", rule targetAtom, mark ")"],
      node .tuple (all [mark "(", opt (any [all [rule target, some1 (operator "," target), opt (mark ",")],
        all [rule target, mark ","]]), mark ")"])]
  | targetPrimary =>
    let look := ahead (rule callAhead)
    chain (all [rule atom, look]) [(.attribute, all [mark ".", name, look]), (.call, all [rule generator, look]),
      (.call, all [mark "(", opt (rule arguments), mark ")", look])]
  | callAhead => any [mark "(", mark "."]
  | arguments => any [all [rule args, opt (mark ","), ahead (mark ")")], mistaken badArguments]
  | args =>
    any [node .arguments (all [list (any [rule starred, all [unassigned, lacking (mark "=")]]),
        opt (operator "," keywords)]), node .arguments (rule keywords)]
  | keywords =>
    any [all [list (rule keywordOrStarred), mark ",", list (rule keywordOrUnpacking)], list (rule keywordOrStarred),
      list (rule keywordOrUnpacking)]
  | keywordOrStarred =>
    any [mistaken badKeyword, node .keyword (all [name, operator "=" expression]), rule starred]
  | keywordOrUnpacking =>
    any [mistaken badKeyword, node .keyword (all [name, operator "=" expression]),
      node .unpacking (operator "**" expression)]
  | starred => any [node .starred (operator "*" expression), blame (mark "*") "Invalid star expression"]
  | starNameds => all [list (rule starNamed), opt (mark ",")]
  | starNamed => any [node .starred (operator "*" bitOr), rule named]
  | named => any [rule assignment, mistaken badNamed, all [rule expression, lacking (mark ":=")]]
  | assignment => node .assignment (all [name, operator ":=" expression])
  | yielding =>
    any [node .yielding (all [mark "yield", operator "from" expression]),
      node .yielding (all [mark "yield", opt (rule starExpressions)])]
  | starExpressions => any (tupleOf starExpression)
  | starExpression => any [node .starred (operator "*" bitOr), rule expression]
  | function => node .function (all [mark "lambda", opt (rule parameters), mark ":", rule expression])
  | parameters =>
    let after := opt (rule starParameters)
    any [mistaken badParameters, all [rule slashPlain, many (rule plainParameter), many (rule defaultParameter), after],
      all [rule slashDefault, many (rule defaultParameter), after],
      all [some1 (rule plainParameter), many (rule defaultParameter), after], all [some1 (rule defaultParameter), after],
      rule starParameters]
  | slashPlain => all [some1 (rule plainParameter), mark "/", any [mark ",", ahead (mark ":")]]
  | slashDefault =>
    all [many (rule plainParameter), some1 (rule defaultParameter), mark "/", any [mark ",", ahead (mark ":")]]
  | starParameters =>
    any [mistaken badStarParameters,
      all [mark "*", rule plainParameter, many (rule anyParameter), opt (rule unpackedParameter)],
      all [mark "*", mark ",", some1 (rule anyParameter), opt (rule unpackedParameter)], rule unpackedParameter]
  | unpackedParameter => any [mistaken badUnpackedParameter, all [mark "**", rule plainParameter]]
  | plainParameter => all [name, any [mark ",", ahead (mark ":")]]
  | defaultParameter => all [name, rule default, any [mark ",", ahead (mark ":")]]
  | anyParameter => all [name, opt (rule default), any [mark ",", ahead (mark ":")]]
  | default => any [operator "=" expression, mistaken badDefault]
  | badArguments =>
    any [blame (all [rule args, mark ",", mark "*"])
        "iterable argument unpacking follows keyword argument unpacking",
      blame (all [rule expression, rule clauses, mark ",", opt (any [rule args, all [rule expression, rule clauses]])])
        bareGenerator,
      blame (all [name, operator "=" expression, rule clauses]) equalsMeant,
      complain (all [rule args, rule clauses]) fun _ ts =>
        match ts with
        | .node .arguments given :: _ => if (positional given).length ≤ 1 then none else some bareGenerator
        | _ => none,
      blame (all [rule args, operator "," expression, rule clauses]) bareGenerator,
      complain (all [rule args, operator "," args]) fun _ ts =>
        match ts with
        | .node .arguments given :: _ =>
          some ("positional argument follows keyword argument" ++ if hasUnpacking given then " unpacking" else "")
        | _ => none]
  | badKeyword =>
    any [complain (all [any [constant "True", constant "False", constant "None"], mark "="]) fun _ ts =>
        ts.head?.map fun t => "cannot assign to " ++ t.noun,
      blame (all [name, operator "=" expression, rule clauses]) equalsMeant,
      blame (all [lacking (all [name, mark "="]), rule expression, mark "="])
        "expression cannot contain assignment, perhaps you meant \"==\"?"]
  | badExpression =>
    any [complain (all [lacking (any [all [name, kind .string], softWord]), rule disjunction, rule quietExpression])
        fun level ts =>
          if (ts.head?.bind Tree.command?).isSome || level = 0 then none else some commaMissing,
      blame (all [rule disjunction, mark "if", rule disjunction, lacking (any [mark "else", mark ":"])])
        "expected 'else' after 'if' expression"]
  | badCommand =>
    complain (all [name, lacking (mark "("), rule starExpressions]) fun _ ts =>
      (ts.head?.bind Tree.command?).map fun c =>
        "Missing parentheses in call to '" ++ c ++ "'. Did you mean " ++ c ++ "(...)?"
  | badNamed =>
    let notAgain := lacking (any [mark "=", mark ":="])
    any [complain (all [rule expression, operator ":=" expression]) fun _ ts =>
        ts.head?.map fun t => "cannot use assignment expressions with " ++ t.noun,
      blame (all [name, operator "=" bitOr, notAgain]) equalsMeant,
      complain (all [lacking (any [rule tuple, rule generator, mark "True", mark "None", mark "False"]), rule bitOr,
          operator "=" bitOr, notAgain]) fun _ ts =>
        ts.head?.map fun t => "cannot assign to " ++ t.noun ++ " here. Maybe you meant '==' instead of '='?"]
  | badComprehension =>
    any [blame (all [any [mark "(", mark "\x7b"], rule starred, rule clauses])
        "iterable unpacking cannot be used in comprehension",
      blame (all [mark "\x7b", rule starNamed, mark ",", rule starNameds, rule clauses]) bareTarget,
      blame (all [mark "\x7b", rule starNamed, mark ",", rule clauses]) bareTarget]
  | badDictOf =>
    blame (all [mark "\x7b", operator "**" bitOr, rule clauses, mark "\x7d"]) "dict unpacking cannot be used in dict comprehension"
  | badGroup =>
    any [blame (all [mark "(", rule starred, mark ")"]) "cannot use starred expression here",
      blame (all [mark "(", operator "**" expression, mark ")"]) "cannot use double starred expression here"]
  | badPairs =>
    any [all [list (rule unpackedPair), mark ",", rule badPair],
      blame (all [rule expression, mark ":", operator "*" bitOr]) starredValue,
      blame (all [rule expression, mark ":", ahead (any [mark "\x7d", mark ","])]) valueMissing]
  | badPair =>
    any [blame (all [rule expression, lacking (mark ":")]) "':' expected after dictionary key",
      blame (all [rule expression, mark ":", operator "*" bitOr]) starredValue,
      blame (all [rule expression, mark ":", ahead (any [mark "\x7d", mark ","])]) valueMissing]
  | badTarget =>
    complain (all [opt (mark "async"), mark "for", rule starExpressions]) fun _ ts =>
      (ts.head?.bind Tree.notTarget?).map fun t => "cannot assign to " ++ t.noun
  | badDefault => blame (all [mark "=", ahead (any [mark ")", mark ","])]) "expected default value expression"
  | badParameters =>
    any [blame (all [many (rule plainParameter), any [rule slashDefault, some1 (rule defaultParameter)], rule plainParameter])
        "non-default argument follows default argument",
      blame (all [many (rule plainParameter), mark "(", list name, opt (mark ","), mark ")"])
        "Lambda expression parameters cannot be parenthesized",
      blame (all [mark "/", mark ","]) "at least one argument must precede /",
      blame (all [any [rule slashPlain, rule slashDefault], many (rule anyParameter), mark "/"]) "/ may appear only once",
      blame (all [opt (any [rule slashPlain, rule slashDefault]), many (rule anyParameter), mark "*",
        any [mark ",", rule plainParameter], many (rule anyParameter), mark "/"]) "/ must be ahead of *",
      blame (all [some1 (rule anyParameter), mark "/", mark "*"]) "expected comma between / and *"]
  | badStarParameters =>
    any [blame (all [mark "*", any [mark ":", all [mark ",", any [mark ":", mark "**"]]]])
        "named arguments must follow bare *",
      blame (all [mark "*", name, mark "="]) "var-positional argument cannot have default value",
      blame (all [mark "*", any [rule plainParameter, mark ","], many (rule anyParameter), mark "*",
        any [rule plainParameter, mark ","]]) "* argument may appear only once"]
  | badUnpackedParameter =>
    any [blame (all [mark "**", name, mark "="]) "var-keyword argument cannot have default value",
      blame (all [mark "**", name, mark ",", name]) afterUnpacked,
      blame (all [mark "**", name, mark ",", any [mark "*", mark "**", mark "/"]]) afterUnpacked]

/-- Rules whose outcome at a place is kept for the rest of a reading. -/
def isKept (r : Rule) : Bool :=
  [expression, starExpression, disjunction, conjunction, inversion, bitOr, bitXor, bitAnd, shift, sum, term, factor,
    awaiting, primary, targetPrimary, strings, arguments, target, targetAtom, badNamed].contains r

end Rule

end Amalgam.Console.Literal

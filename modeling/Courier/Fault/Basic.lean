import Courier.Fault.Category
import Courier.Text.Quoted

/-!
# Faults and what they were raised from

A fault is an entry into a finite graph: every node may name a cause, from which it was raised, and
a context, which was being handled when it was raised. The links may form cycles. `Fault.chain`
walks from the entry along the origins, which are the cause or, without one, the context, and stops
before a node it has seen.

`Fault.kind` sorts faults for the retry decision, and `Fault.report` is the text of a fault with all
it was raised from.
-/

namespace Courier

namespace Fault

/-- One fault of a graph; the links are positions in the graph. -/
structure Node where
  category : Category
  message : String
  cause : Option Nat
  context : Option Nat
  deriving DecidableEq, Repr, Inhabited

/-- The node a fault was raised from: the cause or, without one, the context. -/
def Node.origin? (n : Node) : Option Nat := n.cause <|> n.context

/-- The text of a fault. A TLS fault shows its message as the only item of a list, and a fault that
    names a missing key shows the key quoted. -/
def Node.text (n : Node) : String :=
  if n.category.isTls then s!"({Text.quotedString n.message},)"
  else if n.category.namesKey then Text.quotedString n.message
  else n.message

/-- What a report says of a fault, if anything; of a fault of syntax it always says something. -/
def Node.detail? (n : Node) : Option String :=
  if !n.text.isEmpty then some n.text
  else if n.category.isSyntax then some "<no detail available>"
  else none

/-- The line of a report that names a fault. -/
def Node.line (n : Node) : String :=
  match n.detail? with
  | some detail => s!"{n.category.qualifiedName}: {detail}"
  | none => n.category.qualifiedName

end Fault

/-- A fault with the graph of those it was raised from; the entry is at position zero. -/
structure Fault where
  entry : Fault.Node
  others : List Fault.Node
  deriving DecidableEq, Repr, Inhabited

namespace Fault

/-- A fault that was raised from nothing. -/
def single (category : Category) (message : String) : Fault :=
  ⟨⟨category, message, none, none⟩, []⟩

/-- The nodes of the graph, in their positions. -/
def nodes (f : Fault) : List Node := f.entry :: f.others

/-- The category of the entry. -/
def category (f : Fault) : Category := f.entry.category

/-- The text of the entry. -/
def text (f : Fault) : String := f.entry.text

/-- Walks from a position along the origins; `seen` are the positions before it. -/
def walk (f : Fault) : Nat → List Nat → Nat → List Nat
  | 0, _, _ => []
  | fuel + 1, seen, position =>
    if seen.contains position then []
    else
      match f.nodes[position]? with
      | none => []
      | some node =>
        position :: (match node.origin? with
          | none => []
          | some next => f.walk fuel (position :: seen) next)

/-- The positions of the fault and of those it was raised from, each once. There are no more than
    the graph has. -/
def chain (f : Fault) : List Nat := f.walk f.nodes.length [] 0

/-- The nodes of the chain. -/
def chainNodes (f : Fault) : List Node := f.chain.filterMap (f.nodes[·]?)

/-- How a failed send is treated. -/
inductive Kind where
  | timeout
  | connectionReset
  | secureChannelFailure
  | unknown
  deriving DecidableEq, Repr

/-- All kinds. -/
def Kind.all : List Kind := [.timeout, .connectionReset, .secureChannelFailure, .unknown]

/-- The label of a kind in log fields. -/
def Kind.label : Kind → String
  | timeout => "timeout"
  | connectionReset => "connection_reset"
  | secureChannelFailure => "secure_channel_failure"
  | unknown => "unknown"

/-- The text that shows a kind. -/
def Kind.shown (kind : Kind) : String := s!"ErrorKind.{kind.label.toUpper}"

/-- The text that shows a kind inside another value. -/
def Kind.spelled (kind : Kind) : String := s!"<{kind.shown}: {Text.quotedString kind.label}>"

/-- The kind of a label. -/
def Kind.ofLabel? (label : String) : Option Kind := Kind.all.find? (·.label == label)

/-- The kinds that are never retried: another attempt does not mend a handshake or a certificate. -/
def Kind.nonRetriable : List Kind := [.secureChannelFailure]

/-- The kind of a fault. A TLS fault anywhere in the chain decides it. -/
def kind (f : Fault) : Kind :=
  if f.chainNodes.any (·.category.isTls) then .secureChannelFailure
  else if f.category.isTimeout then .timeout
  else if f.category.isConnectionLoss then .connectionReset
  else .unknown

/-- Whether the request may have reached the server before the fault. -/
def mayHaveBeenSent (f : Fault) : Bool := !f.category.precedesSending

/-- What stands in a report between a node and the one it was raised from. -/
def linkText (n : Node) : String :=
  if n.cause.isSome then
    "\n\nThe above exception was the direct cause of the following exception:\n\n"
  else "\n\nDuring handling of the above exception, another exception occurred:\n\n"

/-- The lines of nodes, the last one first. -/
def reportOf : List Node → String
  | [] => ""
  | [n] => n.line
  | n :: rest => reportOf rest ++ linkText n ++ n.line

/-- The report of a fault: the chain from its far end, with what links each to the next. -/
def report (f : Fault) : String := reportOf f.chainNodes

end Fault

end Courier

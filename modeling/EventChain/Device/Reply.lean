import EventChain.Value.Basic

/-!
# Replies of devices

A gateway answers a command with an acknowledgement, with an object that has the attributes
of one, or with any value. `Reply.acknowledgement?` reads an acknowledgement off a reply:
outside of a real one, only a boolean acknowledges.
-/

namespace EventChain

structure Acknowledgement where
  ack : Value
  response : Value

inductive Reply where
  | value (v : Value)
  | attributes (entries : Record)
  | acknowledged (a : Acknowledgement)

namespace Reply

/-- An acknowledgement whose mark is a boolean. -/
def marked? (ack response : Value) : Option Acknowledgement :=
  match ack with
  | .boolean _ => some ⟨ack, response⟩
  | _ => none

/-- The acknowledgement in a reply. In an object the response stands under one of two keys. -/
def acknowledgement? : Reply → Option Acknowledgement
  | acknowledged a => some a
  | attributes entries => marked? (entries.get "ack") (entries.get "device_response")
  | value (.object entries) =>
    marked? (Record.get entries "ack")
      ((Record.get? entries "deviceResponse").getD (Record.get entries "device_response"))
  | value _ => none

/-- No response at all. -/
def none : Reply := value .null

end Reply

end EventChain

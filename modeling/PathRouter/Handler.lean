import PathRouter.Template.Fill
import PathRouter.Value.Basic

/-!
# Handlers

A handler answers a request with the captured parameters, with a value or with the reply that there
is nothing to be found, or it fails with an error of its own.  Any function of the parameters is a
handler.  Some of them are ready-made: filling a template, fixed replies, and replies that show what
the handler was given.  A recorder also remembers its calls, and several routes may share it.
-/

namespace PathRouter

/-- What a handler or a factory can fail with. -/
inductive HandlerError where
  | badValue (message : String)
  | missingKey (key : String)
  | failed (message : String)
  | router (error : RouterError)
  | template (error : TemplateError)
  deriving DecidableEq, Repr

/-- The message of an error; a missing key is quoted. -/
def HandlerError.message : HandlerError → String
  | badValue m => m
  | missingKey k => Text.quote k
  | failed m => m
  | router e => e.message
  | template e => e.message

/-- The answer to a request. -/
inductive Reply where
  | notFound
  | value (v : Value)

/-- The text of the reply that there is nothing to be found. -/
def notFoundText : String := "404 Not Found"

/-- A handler. -/
inductive Handler where
  /-- Answers by a function of the parameters. -/
  | function (f : Params → Except HandlerError Reply)
  /-- Fills a template with the parameters. -/
  | format (template : String)
  /-- Replies with a fixed value. -/
  | constant (v : Value)
  /-- Replies with the parameters. -/
  | echo
  /-- Replies with its configuration and the parameters. -/
  | echoConfig (config : Value.Entries)
  /-- Replies that there is nothing to be found. -/
  | sentinel
  /-- Fails. -/
  | failing (error : HandlerError)
  /-- Records the parameters under a name and replies with the value of that recorder.  A recorder
  is made where its name is first used, with this value. -/
  | recording (name : String) (result : Value)

/-- Parameters as data: a list of pairs. -/
def Params.toValue (ps : Params) : Value :=
  .list (ps.entries.map fun e => .list [.text e.1, .text e.2])

/-- The parameters that a recorder was called with so far, and what it replies. -/
structure Recorder where
  result : Value
  calls : List Params

/-- The recorders by name. -/
abbrev Recorders := OrderedMap String Recorder

/-- The outcome of a handler: its reply or error, and the recorders afterwards. -/
abbrev Outcome := Except HandlerError Reply × Recorders

namespace Handler

/-- Makes the recorder of a handler, if it has one that is not there yet. -/
def prepare (h : Handler) (rs : Recorders) : Recorders :=
  match h with
  | recording name result => if rs.contains name then rs else rs.put name ⟨result, []⟩
  | _ => rs

/-- Calls a handler. -/
def invoke (h : Handler) (ps : Params) (rs : Recorders) : Outcome :=
  match h with
  | function f => (f ps, rs)
  | format template =>
    match Template.fill template ps with
    | .ok s => (.ok (.value (.text s)), rs)
    | .error e => (.error (.template e), rs)
  | constant v => (.ok (.value v), rs)
  | echo => (.ok (.value ps.toValue), rs)
  | echoConfig config =>
    (.ok (.value (.map [(.text "config", .map config), (.text "params", ps.toValue)])), rs)
  | sentinel => (.ok .notFound, rs)
  | failing e => (.error e, rs)
  | recording name result =>
    let r := (rs.get? name).getD ⟨result, []⟩
    (.ok (.value r.result), rs.put name { r with calls := r.calls ++ [ps] })

end Handler

end PathRouter

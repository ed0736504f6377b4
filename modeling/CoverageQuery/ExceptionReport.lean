import CoverageQuery.Xml.Reader

/-!
# Exception reports

What a service says about a request that it refused: the code of the last exception and the text of
the last exception text that was closed. Prefixes of names are ignored.
-/

namespace CoverageQuery

structure ExceptionDetail where
  text : Option String
  code : Option String
deriving DecidableEq, Repr

namespace ExceptionReport

open Xml

/-- What has been seen of a report: whether there was an exception, the code and text so far, and
the text of the exception text that is open. -/
structure Progress where
  found : Bool
  detail : ExceptionDetail
  opened : Option (List Char)
deriving DecidableEq, Repr

def start : Progress := ⟨false, ⟨none, none⟩, none⟩

def readable? (raw : List Char) : Option String := (unescape? raw).map String.ofList

def isNamed (name : String) (qualified : List Char) : Bool := localName qualified == name.toList

/-- The code after some attributes: that of the last `exceptionCode`, none if it is unreadable. -/
def codeAfter (code : Option String) (attributes : List Attribute) : Option String :=
  attributes.foldl
    (fun code a => if isNamed "exceptionCode" a.name then readable? a.raw else code) code

def onTag (p : Progress) (tag : Tag) : Progress :=
  if isNamed "Exception" tag.name then
    let code := codeAfter p.detail.code tag.attributes
    { p with found := true, detail := { p.detail with code } }
  else if isNamed "ExceptionText" tag.name then { p with opened := some [] }
  else p

/-- Text for the exception text that is open, if one is. -/
def append (p : Progress) (text : List Char) : Progress :=
  { p with opened := p.opened.map (· ++ text) }

def step (p : Progress) : Event → Progress
  | .opening tag | .empty tag => onTag p tag
  | .closing name =>
    match p.opened with
    | some text =>
      if isNamed "ExceptionText" name then
        { p with detail := { p.detail with text := some (String.ofList text) }, opened := none }
      else p
    | none => p
  | .text raw => append p ((unescape? raw).getD [])
  | .data content => append p content
  | .other => p

/-- The detail in a sequence of events, none where there is no exception. -/
def ofEvents? (events : List Event) : Option ExceptionDetail :=
  let p := events.foldl step start
  if p.found then some p.detail else none

def parse? (body : String) : Option ExceptionDetail := ofEvents? (events body.toList)

end ExceptionReport

end CoverageQuery

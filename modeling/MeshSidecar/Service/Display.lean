import MeshSidecar.Service.Basic

/-!
# The written form of a service

A service is written as its host name, followed, if it has tags, by a colon and the tags
in ascending order with commas between them: `reviews.default:v1,v2`. Ports are not written.

`Service.parse` reads that form. The text before the first colon is the host, all after it
are tags; the host's name ends at its first point, and what follows the point is the
namespace. The name and every tag must be there.
-/

namespace MeshSidecar

/-- What a text lacks to be the written form of a service. -/
inductive ParseServiceError where
  | emptyName
  | emptyTag
deriving DecidableEq

/-- The words for what is missing. -/
def ParseServiceError.message : ParseServiceError → String
  | .emptyName => "service name must not be empty"
  | .emptyTag => "service tags must not be empty"

namespace Service

/-- The written form of a service. -/
def display (service : Service) : String :=
  match service.tags.toList with
  | [] => service.hostname
  | tags => service.hostname ++ ":" ++ String.intercalate "," tags

/-- The characters before the first `mark`, and those after it if there is one. -/
def splitAtFirst (mark : Char) : List Char → List Char × Option (List Char)
  | [] => ([], none)
  | c :: rest =>
    if c = mark then ([], some rest)
    else
      let (before, after) := splitAtFirst mark rest
      (c :: before, after)

/-- The pieces of a text between its commas. There is always one. -/
def commaPieces : List Char → List (List Char)
  | [] => [[]]
  | c :: rest =>
    if c = ',' then [] :: commaPieces rest
    else
      match commaPieces rest with
      | [] => [[c]]
      | piece :: pieces => (c :: piece) :: pieces

/-- The service of a written form, without ports. -/
def parse (form : String) : Except ParseServiceError Service :=
  let (host, tagText) := splitAtFirst ':' form.toList
  let (name, ns) := splitAtFirst '.' host
  if name.isEmpty then .error .emptyName
  else
    let tags := (tagText.map commaPieces).getD []
    if tags.any (·.isEmpty) then .error .emptyTag
    else .ok {
      name := String.ofList name
      ns := ns.map String.ofList
      tags := NameSet.ofList (tags.map String.ofList)
      ports := [] }

end Service

end MeshSidecar

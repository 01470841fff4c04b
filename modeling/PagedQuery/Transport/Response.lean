import PagedQuery.Deflate.Container
import PagedQuery.Json.Bytes
import PagedQuery.Outside
import PagedQuery.Transport.MediaType

/-!
Answers to HTTP requests: their headers, the compression of their bodies, and their bodies as
text.
-/
namespace PagedQuery

inductive Coding
  | gzip
  | deflate
deriving DecidableEq, Repr

namespace Coding

def ofName? (name : List Char) : Option Coding :=
  match String.ofList (name.map Char.toLower) with
  | "gzip" => some gzip
  | "deflate" => some deflate
  | _ => none

/-- The bytes before compression. The second coding comes with a header or without. -/
def undo : Coding → List UInt8 → Except Deflate.Damage (List UInt8)
  | gzip, bytes => Deflate.run (Deflate.readFile bytes) bytes
  | deflate, bytes =>
    match Deflate.run Deflate.readSummed bytes with
    | .ok content => .ok content
    | .error _ => Deflate.run Deflate.readData bytes

end Coding

namespace Response

def header? (name : String) (r : Response) : Option String :=
  let fits (p : String × String) := p.1.toList.map Char.toLower = name.toList.map Char.toLower
  match (r.headers.filter fits).map Prod.snd with
  | [] => none
  | v :: rest => some (rest.foldl (fun text v => text ++ ", " ++ v) v)

/-- The codings of the body in the order in which they were applied. Others than those known
leave the body as it is. -/
def codings (r : Response) : List Coding :=
  match r.header? "Content-Encoding" with
  | none => []
  | some text =>
    (text.splitOn ",").filterMap fun name => Coding.ofName? (MediaType.strip name.toList)

def damaged (d : Deflate.Damage) : Failure :=
  .thrown ⟨.http, "DecodingError", "Error -3 while decompressing data: " ++ d.detail⟩

def decompressed (r : Response) : Except Failure Response :=
  match r.codings.reverse.foldlM (fun bytes coding => coding.undo bytes) r.body with
  | .ok body => .ok { r with body := body }
  | .error d => .error (damaged d)

/-- The decoder for the charset that the message gives. Without one, or with one that is not
known, a body is UTF-8, in which ill-formed stretches are replaced. -/
def decoder [Runtime] (r : Response) : List UInt8 → Except Fault String :=
  let given := (r.header? "Content-Type").bind MediaType.charset?
  (given.bind Runtime.decoder?).getD fun bytes =>
    .ok (String.ofList (Text.utf8.decodeLenient 0 bytes))

def text [Runtime] (r : Response) : Except Failure String :=
  if r.body.isEmpty then .ok "" else (r.decoder r.body).mapError Failure.fault

end Response
end PagedQuery

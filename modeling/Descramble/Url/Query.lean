import Descramble.Fault
import Descramble.Text.Utf8
import Descramble.Url.Parse
import Descramble.Url.Percent

namespace Descramble.Url

abbrev Field := Text × Text

namespace Form

def isPlain (b : UInt8) : Bool :=
  let n := b.toNat
  (48 ≤ n && n ≤ 57) || (65 ≤ n && n ≤ 90) || (97 ≤ n && n ≤ 122) || [42, 45, 46, 95].contains n

/-- A space is a plus sign; only letters, digits and `* - . _` stand for themselves. -/
def encodeByte (b : UInt8) : Text :=
  if isPlain b then [Char.ofNat b.toNat] else if b = 32 then ['+'] else percentByte b

def encode (s : Text) : Text := (Text.utf8 s).flatMap encodeByte

def decode (s : Text) : Text :=
  Text.ofUtf8Lossy (percentDecode (Text.utf8 (s.map fun c => if c = '+' then ' ' else c)))

def fieldText (f : Field) : Text := encode f.1 ++ '=' :: encode f.2

def fieldOf (s : Text) : Field :=
  match Text.upTo? '=' s with
  | some (key, value) => (decode key, decode value)
  | none => (decode s, [])

/-- The fields of a query; empty pieces hold none. -/
def fields (query : Text) : List Field :=
  ((Text.pieces (· == '&') query).filter (!·.isEmpty)).map fieldOf

def text (fs : List Field) : Text := Text.join ['&'] (fs.map fieldText)

end Form
end Descramble.Url

namespace Descramble

open Url

def defaultParameter : Text := "signature".toList

/-- The fields of a query in which the parameter has the signature as its only value. -/
def substituted (parameter signature : Text) (fields : List Field) : List Field :=
  fields.filter (fun f => f.1 != parameter) ++ [(parameter, signature)]

def withSignature (u : Address) (parameter signature : Text) : Address :=
  { u with
    query := some (Form.text (substituted parameter signature (Form.fields (u.query.getD [])))) }

def applySignature (url parameter signature : Text) : Except Fault Text :=
  if parameter.isEmpty then .error (.invalidUrl "Empty signature parameter name".toList)
  else
    match Address.parse url with
    | .error cause => .error (.badUrl cause)
    | .ok u =>
      if u.hasSegments then .ok (withSignature u parameter signature).text
      else .error (.invalidUrl url)

end Descramble

import Passage.Text.Utf8

namespace Passage.Wire

inductive Packet where
  | sslRequest
  | startup (params : List (String × String))
  | password (text : String)
  | saslInitial (mechanism : String) (data : List UInt8)
  | saslResponse (data : List UInt8)
  | terminate

def word (n : Nat) : List UInt8 :=
  [UInt8.ofNat (n / 16777216), UInt8.ofNat (n / 65536), UInt8.ofNat (n / 256), UInt8.ofNat n]

def terminated (text : String) : List UInt8 :=
  Text.bytes text ++ [0]

def protocolVersion : Nat := 196608

/-- Stands where a version would, and asks for TLS. -/
def sslRequestCode : Nat := 80877103

namespace Packet

def tag? : Packet → Option Char
  | .sslRequest | .startup _ => none
  | .password _ | .saslInitial .. | .saslResponse _ => some 'p'
  | .terminate => some 'X'

def body : Packet → List UInt8
  | .sslRequest => word sslRequestCode
  | .startup params =>
    word protocolVersion ++
      params.flatMap (fun (name, value) => terminated name ++ terminated value) ++ [0]
  | .password text => terminated text
  | .saslInitial mechanism data => terminated mechanism ++ word data.length ++ data
  | .saslResponse data => data
  | .terminate => []

/-- Whether the packet is part of proving who the client is: a password, or a message of a SASL
exchange. -/
def authenticates : Packet → Bool
  | .password _ | .saslInitial .. | .saslResponse _ => true
  | .sslRequest | .startup _ | .terminate => false

/-- The bytes on the wire: the tag, the length of the rest, the body. The length counts itself. -/
def encode (packet : Packet) : List UInt8 :=
  (packet.tag?.map fun c => UInt8.ofNat c.toNat).toList ++
    word (packet.body.length + 4) ++ packet.body

end Packet

def overwrite (buffer : List UInt8) (position : Nat) (bytes : List UInt8) : List UInt8 :=
  buffer.take position ++ bytes ++ buffer.drop (position + bytes.length)

/-- Writes a packet behind what the buffer holds. Its length is left open until the body stands, and filled in
then. -/
def writePacket (tag? : Option Char) (writeBody : List UInt8 → List UInt8) (buffer : List UInt8) :
    List UInt8 :=
  let opened := buffer ++ (tag?.map fun c => UInt8.ofNat c.toNat).toList
  let written := writeBody (opened ++ word 0)
  overwrite written opened.length (word (written.length - opened.length))

def writeText (text : String) (buffer : List UInt8) : List UInt8 :=
  buffer ++ Text.bytes text ++ [0]

namespace Packet

def writeBody : Packet → List UInt8 → List UInt8
  | .sslRequest, buffer => buffer ++ word sslRequestCode
  | .startup params, buffer =>
    params.foldl (fun buffer (name, value) => writeText value (writeText name buffer))
      (buffer ++ word protocolVersion) ++ [0]
  | .password text, buffer => writeText text buffer
  | .saslInitial mechanism data, buffer => writeText mechanism buffer ++ word data.length ++ data
  | .saslResponse data, buffer => buffer ++ data
  | .terminate, buffer => buffer

def write (packet : Packet) (buffer : List UInt8) : List UInt8 :=
  writePacket packet.tag? packet.writeBody buffer

end Packet
end Passage.Wire

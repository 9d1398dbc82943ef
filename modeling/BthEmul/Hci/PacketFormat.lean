import BthEmul.Foundation.Framing

/-!
# Headers of HCI packets

The packets of the host controller interface announce the length of their
payload in a header whose layout depends on the kind of packet.
-/

namespace BthEmul

open Foundation

namespace Hci

/-- The header of an ACL packet: two bytes and the 16-bit payload length. -/
def aclFormat : HeaderFormat where
  headerLength := 4
  payloadLength header := LittleEndian.decode ((header.drop 2).take 2)

/-- The header of an SCO packet: two bytes and the 8-bit payload length. -/
def scoFormat : HeaderFormat where
  headerLength := 3
  payloadLength header := LittleEndian.decode ((header.drop 2).take 1)

/-- The header of an event: the event code and the 8-bit payload length. -/
def eventFormat : HeaderFormat where
  headerLength := 2
  payloadLength header := LittleEndian.decode ((header.drop 1).take 1)

end Hci
end BthEmul

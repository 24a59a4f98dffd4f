import StubHttp.Json.Printer

/-!
# Tracks

A song record, the payload of the built-in reply. In JSON it is an object whose
members are its two fields, in this order.
-/

namespace StubHttp

structure Track where
  artist : String
  title : String
  deriving DecidableEq

def Track.toJson (t : Track) : Json.Value :=
  .object [("artist", .string t.artist), ("title", .string t.title)]

def Track.printList (tracks : List Track) : String :=
  (Json.Value.array (tracks.map Track.toJson)).print

end StubHttp

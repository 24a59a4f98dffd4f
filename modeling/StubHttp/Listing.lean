import StubHttp.Catalog
import StubHttp.Net.Endpoint
import StubHttp.Text.Columns

/-!
# The list of supported queries

One row for each fixture of the catalog, in its order: four blanks, the path
set flush left in ten columns, two blanks, the description in fifty. A field
that is longer than its columns is written in full and moves what follows to
the right. The banner has the same list below the place where the server
listens.
-/

namespace StubHttp

def Fixture.row (f : Fixture) : String :=
  "    " ++ Text.flushLeft 10 f.path ++ "  " ++ Text.flushLeft 50 f.description ++ "\n"

def Catalog.listing (c : Catalog) : String :=
  "Supported request queries:\n" ++ String.join (c.fixtures.map Fixture.row)

def Catalog.banner (c : Catalog) (e : Net.Endpoint) : String :=
  "Starting HTTP server on http://localhost:" ++ toString e.port.toNat ++ "\n" ++ c.listing

end StubHttp

import ChapelServer.Server.Info

/-!
# The command line

Greets on the standard error stream, where the log goes.
-/

namespace ChapelServer

/-- Writes a notice to the log. -/
def logNotice (notice : Notice) : IO Unit :=
  IO.eprintln s!"[{notice.level.name}] {notice.message.string}"

end ChapelServer

/-- Starts the server. -/
def main : IO Unit :=
  ChapelServer.ServerInfo.greeting.forM ChapelServer.logNotice

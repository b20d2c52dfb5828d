import ValidityTables.Services.Allocator
import ValidityTables.Services.Client
import ValidityTables.Services.Echo
import ValidityTables.UpdateFile.Source
import ValidityTables.Updater

/-!
# Opening a run

A run with temporary tables prints its statements. Any other run uses the client and the allocator
of its settings with the account of the host, and first sees whether the store answers at all.
-/

namespace ValidityTables.Updater

def now (host : Host) : String × Host := (host.date, host)

def printing : Services Host where
  execute := Echo.execute Host.print
  probe := Echo.probe
  allocate table _ host := (.error (.allocation table "there is no allocator"), host)
  now

def programs (config : Config) (access : Access) : Services Host where
  execute := Client.execute config.clientProgram access.clientArgs
  probe table _ := some (describe table)
  allocate := Allocator.allocate config.allocatorProgram
  now

def connectionProbe : String := "select 1"

def connect (config : Config) (access : Access) (host : Host) :
    Except UpdateError (Updater Host) × Session Host :=
  let backend : Backend Host := ⟨programs config access, config.maxAttempts, .durable⟩
  match backend.query connectionProbe { world := host } with
  | (.ok _, session) => (withBackend config backend, session)
  | (.error _, session) => (.error (.unavailable access.redacted), session)

def openRun (config : Config) (host : Host) : Except UpdateError (Updater Host) × Session Host :=
  match config.validate with
  | .error e => (.error e, { world := host })
  | .ok () =>
    if config.temporaryTables then
      (withBackend config ⟨printing, config.maxAttempts, .ephemeral⟩, { world := host })
    else
      match Access.ofVariables host.account with
      | .error e => (.error e, { world := host })
      | .ok access => connect config access host

def fileSource (file : String) (host : Host) : Except IoFault (List SourceLine) × Host :=
  let (content, host) := host.readFile file
  (content.map (UpdateFile.sourceLines file), host)

end ValidityTables.Updater

import HostedFiles.Proofs.Environment.Taking
import HostedFiles.Proofs.Host.InForce

/-!
# Proofs/Host/Renewal — settings read anew where nothing was edited

At the start the settings file fills in what is missing, later it overrides.  So of a name that has
a value from outside as well, or several lines of the file, another value counts when the settings
are read anew, although nothing was edited; and a line may refer to a later one, which it finds only
then (`renewed_otherwise`).  Exactly those names keep their values whose last line, when it is read
anew, says the value after the start (`renewedSettings_started`).
-/

namespace HostedFiles.Host

open EnvFile

variable {said : List (String × String)} {d source : Disk} {e : Environment} {name : String}

end HostedFiles.Host

/-! ## A service with a settings file -/

namespace HostedFiles.Sample

open EnvFile Host

end HostedFiles.Sample

namespace HostedFiles.Host

open EnvFile

end HostedFiles.Host

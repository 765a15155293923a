import OrmCode.Proofs.Converter.Failure
import OrmCode.Proofs.Shell.Statement
import OrmCode.Proofs.Text.Words

/-!
# What a line does to a session

Between two lines the converter of a session is the one of its settings.  Only two commands
change the target or the policies, and they are commands only where no statement is pending.
-/

namespace OrmCode

namespace Shell

namespace Session

variable {session : Session} {line : String}

variable {first : Settings} {following : Session} {reply : Reply}

end Session

variable {settings : Settings} {target : Target}

end Shell

end OrmCode

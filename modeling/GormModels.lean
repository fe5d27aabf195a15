import GormModels.Main
import GormModels.Proofs.Agreement
import GormModels.Proofs.Cli.Delivery
import GormModels.Proofs.Cli.Precedence
import GormModels.Proofs.Database.Configuration
import GormModels.Proofs.Database.PlainName
import GormModels.Proofs.Go.Accessor
import GormModels.Proofs.Go.Alignment
import GormModels.Proofs.Go.Clauses
import GormModels.Proofs.Go.Imports
import GormModels.Proofs.Go.JsonMembers
import GormModels.Proofs.Go.LineEnd
import GormModels.Proofs.Go.Nullability
import GormModels.Proofs.Go.StructTag
import GormModels.Proofs.Go.UserType
import GormModels.Proofs.Independence
import GormModels.Proofs.Naming.Exported
import GormModels.Proofs.Naming.Initialism
import GormModels.Proofs.Schema.NullDefault
import GormModels.Proofs.Sql.DefaultClause
import GormModels.Proofs.Sql.FirstMissing

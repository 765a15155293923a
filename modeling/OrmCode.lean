import OrmCode.Fields
import OrmCode.Fixture
import OrmCode.Main
import OrmCode.Proofs.Code.Agreement
import OrmCode.Proofs.Code.Count
import OrmCode.Proofs.Code.Registration
import OrmCode.Proofs.ColumnType.Counterpart
import OrmCode.Proofs.ColumnType.Suffix
import OrmCode.Proofs.CommandLine.Conversion
import OrmCode.Proofs.Converter.Length
import OrmCode.Proofs.Converter.Recording
import OrmCode.Proofs.Definition.Decoding
import OrmCode.Proofs.Fixture.Definition
import OrmCode.Proofs.Fixture.Insertion
import OrmCode.Proofs.Lowering.Count
import OrmCode.Proofs.Lowering.Key
import OrmCode.Proofs.Lowering.Qualifier
import OrmCode.Proofs.Lowering.Serial
import OrmCode.Proofs.Lowering.Sign
import OrmCode.Proofs.Lowering.WellFormed
import OrmCode.Proofs.Meaning.Effect
import OrmCode.Proofs.Meaning.Faithful
import OrmCode.Proofs.Meaning.Parts
import OrmCode.Proofs.Numeral.Emission
import OrmCode.Proofs.Numeral.Grammar
import OrmCode.Proofs.Python.Keyword
import OrmCode.Proofs.Reference.Address
import OrmCode.Proofs.Reference.Capture
import OrmCode.Proofs.Request.Answer
import OrmCode.Proofs.Scan.Lines
import OrmCode.Proofs.Scan.Number
import OrmCode.Proofs.Scan.Numeral
import OrmCode.Proofs.Sequelize.Change
import OrmCode.Proofs.Sequelize.Decoding
import OrmCode.Proofs.Shell.Completion
import OrmCode.Proofs.Shell.Consistency
import OrmCode.Proofs.Shell.Statement
import OrmCode.Proofs.SqlAlchemy.Collision
import OrmCode.Proofs.SqlAlchemy.Decoding
import OrmCode.Proofs.Statement.Flaw
import OrmCode.Proofs.Statement.Traversal
import OrmCode.Proofs.Text.Digits
import OrmCode.Provider
import OrmCode.Recorder
import OrmCode.Shell.Completion

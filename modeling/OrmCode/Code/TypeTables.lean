import OrmCode.ColumnType
import OrmCode.Target

/-!
# Type tables

The column types that have a counterpart in each target.
-/

namespace OrmCode

def sequelizeTypes : TypeTable where
  entries :=
    [("tinyint", ⟨"DataTypes.TINYINT", false⟩),
      ("smallint", ⟨"DataTypes.SMALLINT", false⟩),
      ("mediumint", ⟨"DataTypes.MEDIUMINT", false⟩),
      ("int", ⟨"DataTypes.INTEGER", false⟩),
      ("integer", ⟨"DataTypes.INTEGER", false⟩),
      ("serial", ⟨"DataTypes.INTEGER", false⟩),
      ("bigint", ⟨"DataTypes.BIGINT", false⟩),
      ("bigserial", ⟨"DataTypes.BIGINT", false⟩),
      ("float", ⟨"DataTypes.FLOAT", false⟩),
      ("real", ⟨"DataTypes.REAL", false⟩),
      ("double", ⟨"DataTypes.DOUBLE", false⟩),
      ("double precision", ⟨"DataTypes.DOUBLE", false⟩),
      ("decimal", ⟨"DataTypes.DECIMAL", true⟩),
      ("numeric", ⟨"DataTypes.DECIMAL", true⟩),
      ("varchar", ⟨"DataTypes.STRING", true⟩),
      ("character varying", ⟨"DataTypes.STRING", true⟩),
      ("char", ⟨"DataTypes.CHAR", true⟩),
      ("character", ⟨"DataTypes.CHAR", true⟩),
      ("text", ⟨"DataTypes.TEXT", false⟩),
      ("tinytext", ⟨"DataTypes.TEXT", false⟩),
      ("mediumtext", ⟨"DataTypes.TEXT", false⟩),
      ("longtext", ⟨"DataTypes.TEXT", false⟩),
      ("bool", ⟨"DataTypes.BOOLEAN", false⟩),
      ("boolean", ⟨"DataTypes.BOOLEAN", false⟩),
      ("date", ⟨"DataTypes.DATEONLY", false⟩),
      ("datetime", ⟨"DataTypes.DATE", false⟩),
      ("timestamp", ⟨"DataTypes.DATE", false⟩),
      ("time", ⟨"DataTypes.TIME", false⟩),
      ("uuid", ⟨"DataTypes.UUID", false⟩),
      ("json", ⟨"DataTypes.JSON", false⟩),
      ("jsonb", ⟨"DataTypes.JSONB", false⟩),
      ("blob", ⟨"DataTypes.BLOB", false⟩),
      ("binary", ⟨"DataTypes.BLOB", false⟩),
      ("varbinary", ⟨"DataTypes.BLOB", false⟩),
      ("bytea", ⟨"DataTypes.BLOB", false⟩)]
  fallback := ⟨"DataTypes.STRING", false⟩

/-- The column types of SQLAlchemy. -/
def sqlAlchemyTypes : TypeTable where
  entries :=
    [("tinyint", ⟨"SmallInteger", false⟩),
      ("smallint", ⟨"SmallInteger", false⟩),
      ("mediumint", ⟨"Integer", false⟩),
      ("int", ⟨"Integer", false⟩),
      ("integer", ⟨"Integer", false⟩),
      ("serial", ⟨"Integer", false⟩),
      ("bigint", ⟨"BigInteger", false⟩),
      ("bigserial", ⟨"BigInteger", false⟩),
      ("float", ⟨"Float", false⟩),
      ("real", ⟨"Float", false⟩),
      ("double", ⟨"Float", false⟩),
      ("double precision", ⟨"Float", false⟩),
      ("decimal", ⟨"Numeric", true⟩),
      ("numeric", ⟨"Numeric", true⟩),
      ("varchar", ⟨"String", true⟩),
      ("character varying", ⟨"String", true⟩),
      ("char", ⟨"String", true⟩),
      ("character", ⟨"String", true⟩),
      ("text", ⟨"Text", false⟩),
      ("tinytext", ⟨"Text", false⟩),
      ("mediumtext", ⟨"Text", false⟩),
      ("longtext", ⟨"Text", false⟩),
      ("bool", ⟨"Boolean", false⟩),
      ("boolean", ⟨"Boolean", false⟩),
      ("date", ⟨"Date", false⟩),
      ("datetime", ⟨"DateTime", false⟩),
      ("timestamp", ⟨"DateTime", false⟩),
      ("time", ⟨"Time", false⟩),
      ("uuid", ⟨"Uuid", false⟩),
      ("json", ⟨"JSON", false⟩),
      ("jsonb", ⟨"JSON", false⟩),
      ("blob", ⟨"LargeBinary", false⟩),
      ("binary", ⟨"LargeBinary", false⟩),
      ("varbinary", ⟨"LargeBinary", false⟩),
      ("bytea", ⟨"LargeBinary", false⟩)]
  fallback := ⟨"String", false⟩

def Target.types : Target → TypeTable
  | sequelize => sequelizeTypes
  | sqlAlchemy => sqlAlchemyTypes

end OrmCode

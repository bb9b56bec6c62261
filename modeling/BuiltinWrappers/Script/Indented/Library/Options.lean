/-!
# Options of commands

Reading the words that a script was called with.
-/

namespace BuiltinWrappers.Script.Indented.Library

/-- Options and operands that explain themselves. -/
def describedOptions : String := r#"
  |import os
  |import re
  |import sys
  |SUPPRESS = '==SUPPRESS=='
  |OPTIONAL = '?'
  |ZERO_OR_MORE = '*'
  |ONE_OR_MORE = '+'
  |PARSER = 'A...'
  |REMAINDER = '...'
  |_UNRECOGNIZED = '_unrecognized_args'
  |
  |class ArgumentError(Exception):
  |    def __init__(self, argument, message):
  |        self.argument_name = _name_of(argument)
  |        self.message = message
  |    def __str__(self):
  |        if self.argument_name is None:
  |            return self.message
  |        return 'argument %s: %s' % (self.argument_name, self.message)
  |
  |class ArgumentTypeError(Exception):
  |    pass
  |
  |def _name_of(argument):
  |    if argument is None:
  |        return None
  |    if argument.option_strings:
  |        return '/'.join(argument.option_strings)
  |    if argument.metavar not in (None, SUPPRESS):
  |        metavar = argument.metavar
  |        return ' '.join(metavar) if isinstance(metavar, tuple) else metavar
  |    if argument.dest not in (None, SUPPRESS):
  |        return argument.dest
  |    if argument.choices:
  |        return chr(123) + ','.join(argument.choices) + chr(125)
  |    return None
  |
  |class Namespace:
  |    def __init__(self, **kwargs):
  |        for name in kwargs:
  |            setattr(self, name, kwargs[name])
  |    def __eq__(self, other):
  |        if not isinstance(other, Namespace):
  |            return NotImplemented
  |        return vars(self) == vars(other)
  |    def __contains__(self, key):
  |        return key in self.__dict__
  |    def __repr__(self):
  |        return 'Namespace(%s)' % ', '.join(
  |            '%s=%r' % pair for pair in self.__dict__.items())
  |
  |class HelpFormatter:
  |    def __init__(self, prog, indent_increment=2, max_help_position=24, width=None):
  |        if width is None:
  |            import shutil
  |            width = shutil.get_terminal_size().columns - 2
  |        self._prog = prog
  |        self._indent_increment = indent_increment
  |        self._max_help_position = min(max_help_position, max(width - 20, indent_increment * 2))
  |        self._width = width
  |        self._indent = 0
  |        self._length = 0
  |        self._sections = [[]]
  |    def start_section(self, heading):
  |        self._sections.append([heading])
  |        self._indent += self._indent_increment
  |    def end_section(self):
  |        self._indent -= self._indent_increment
  |        heading, *items = self._sections.pop()
  |        self._sections[-1].append((self._section, heading, items))
  |    def _section(self, heading, items):
  |        self._indent += self._indent_increment
  |        text = self._join(items)
  |        self._indent -= self._indent_increment
  |        if not text:
  |            return ''
  |        if heading is not SUPPRESS and heading is not None:
  |            text = '%*s%s:\n' % (self._indent, '', heading) + text
  |        return '\n' + text + '\n'
  |    def _join(self, items):
  |        parts = [item[0](*item[1:]) for item in items]
  |        return ''.join(part for part in parts if part and part is not SUPPRESS)
  |    def add_text(self, text):
  |        if text is not SUPPRESS and text is not None:
  |            self._sections[-1].append((self._format_text, text))
  |    def add_usage(self, usage, actions, groups, prefix=None):
  |        if usage is not SUPPRESS:
  |            self._sections[-1].append((self._format_usage, usage, actions, groups, prefix))
  |    def add_argument(self, action):
  |        if action.help is not SUPPRESS:
  |            size = self._indent + len(self._invocation(action))
  |            for sub in self._subactions(action):
  |                size = max(size, self._indent + self._indent_increment
  |                           + len(self._invocation(sub)))
  |            self._length = max(self._length, size)
  |            self._sections[-1].append((self._format_action, action))
  |    def add_arguments(self, actions):
  |        for action in actions:
  |            self.add_argument(action)
  |    def format_help(self):
  |        text = self._join(self._sections[0])
  |        if text:
  |            text = re.sub('\n\n\n+', '\n\n', text)
  |            text = text.strip('\n') + '\n'
  |        return text
  |    def _format_usage(self, usage, actions, groups, prefix):
  |        if prefix is None:
  |            prefix = 'usage: '
  |        if usage is not None:
  |            usage = usage % dict(prog=self._prog)
  |        elif not actions:
  |            usage = '%s' % self._prog
  |        else:
  |            prog = self._prog
  |            optionals = [a for a in actions if a.option_strings]
  |            positionals = [a for a in actions if not a.option_strings]
  |            opt_parts = self._usage_parts(optionals, groups)
  |            pos_parts = self._usage_parts(positionals, groups)
  |            usage = ' '.join([prog] + opt_parts + pos_parts)
  |            width = self._width - self._indent
  |            if len(prefix) + len(usage) > width:
  |                if len(prefix) + len(prog) <= 0.75 * width:
  |                    indent = ' ' * (len(prefix) + len(prog) + 1)
  |                    if opt_parts:
  |                        lines = self._lines([prog] + opt_parts, indent, prefix)
  |                        lines.extend(self._lines(pos_parts, indent))
  |                    elif pos_parts:
  |                        lines = self._lines([prog] + pos_parts, indent, prefix)
  |                    else:
  |                        lines = [prog]
  |                else:
  |                    indent = ' ' * len(prefix)
  |                    parts = opt_parts + pos_parts
  |                    lines = self._lines(parts, indent)
  |                    if len(lines) > 1:
  |                        lines = self._lines(opt_parts, indent)
  |                        lines.extend(self._lines(pos_parts, indent))
  |                    lines = [prog] + lines
  |                usage = '\n'.join(lines)
  |        return prefix + usage + '\n\n'
  |    def _lines(self, parts, indent, prefix=None):
  |        lines = []
  |        line = []
  |        start = len(indent) - 1
  |        size = len(prefix) - 1 if prefix is not None else start
  |        for part in parts:
  |            if size + 1 + len(part) > self._width - self._indent and line:
  |                lines.append(indent + ' '.join(line))
  |                line = []
  |                size = start
  |            line.append(part)
  |            size += len(part) + 1
  |        if line:
  |            lines.append(indent + ' '.join(line))
  |        if prefix is not None:
  |            lines[0] = lines[0][len(indent):]
  |        return lines
  |    def _usage_parts(self, actions, groups):
  |        parts = []
  |        done = []
  |        for action in actions:
  |            if any(action is other for other in done):
  |                continue
  |            group = None
  |            for g in groups:
  |                if g._group_actions and any(a is action for a in g._group_actions):
  |                    members = [a for a in actions if any(a is b for b in g._group_actions)]
  |                    if len(members) == len(g._group_actions):
  |                        group = g
  |            if group is not None:
  |                done.extend(group._group_actions)
  |                inner = [self._usage_part(a, True) for a in group._group_actions
  |                         if a.help is not SUPPRESS]
  |                if not inner:
  |                    continue
  |                text = ' | '.join(inner)
  |                if group.required:
  |                    parts.append('(' + text + ')' if len(inner) > 1 else text)
  |                else:
  |                    parts.append('[' + text + ']')
  |                continue
  |            if action.help is SUPPRESS:
  |                continue
  |            parts.append(self._usage_part(action, False))
  |        return parts
  |    def _usage_part(self, action, grouped):
  |        if not action.option_strings:
  |            text = self._format_args(action, self._metavar(action, action.dest, positional=True))
  |            if grouped and text[:1] == '[' and text[-1:] == ']':
  |                text = text[1:-1]
  |            return text
  |        option = action.option_strings[0]
  |        if action.nargs == 0:
  |            text = action.format_usage()
  |        else:
  |            text = '%s %s' % (option, self._format_args(
  |                action, self._metavar(action, action.dest.upper())))
  |        return text if action.required or grouped else '[%s]' % text
  |    def _format_text(self, text):
  |        if '%(prog)' in text:
  |            text = text % dict(prog=self._prog)
  |        width = max(self._width - self._indent, 11)
  |        return self._fill_text(text, width, ' ' * self._indent) + '\n\n'
  |    def _format_action(self, action):
  |        position = min(self._length + 2, self._max_help_position)
  |        width = max(self._width - position, 11)
  |        action_width = position - self._indent - 2
  |        header = self._invocation(action)
  |        help = self._expand(action) if action.help and action.help.strip() else ''
  |        if not help:
  |            header = '%*s%s\n' % (self._indent, '', header)
  |        elif len(header) <= action_width:
  |            header = '%*s%-*s  ' % (self._indent, '', action_width, header)
  |            first = 0
  |        else:
  |            header = '%*s%s\n' % (self._indent, '', header)
  |            first = position
  |        parts = [header]
  |        if help:
  |            lines = self._split_lines(help, width)
  |            parts.append('%*s%s\n' % (first, '', lines[0]))
  |            for line in lines[1:]:
  |                parts.append('%*s%s\n' % (position, '', line))
  |        elif not header.endswith('\n'):
  |            parts.append('\n')
  |        self._indent += self._indent_increment
  |        for sub in self._subactions(action):
  |            if sub.help is not SUPPRESS:
  |                parts.append(self._format_action(sub))
  |        self._indent -= self._indent_increment
  |        return ''.join(part for part in parts if part)
  |    def _subactions(self, action):
  |        return getattr(action, '_choices_actions', ())
  |    def _invocation(self, action):
  |        if not action.option_strings:
  |            return self._metavar(action, action.dest, positional=True, invoked=True)
  |        if action.nargs == 0:
  |            return ', '.join(action.option_strings)
  |        args = self._format_args(action, self._metavar(action, action.dest.upper()))
  |        return ', '.join('%s %s' % (option, args) for option in action.option_strings)
  |    def _metavar(self, action, default, positional=False, invoked=False):
  |        if action.metavar is not None:
  |            result = action.metavar
  |        elif action.choices is not None:
  |            result = chr(123) + ','.join(str(c) for c in action.choices) + chr(125)
  |        else:
  |            result = default
  |        if invoked:
  |            return ' '.join(result) if isinstance(result, tuple) else result
  |        return result
  |    def _format_args(self, action, metavar):
  |        def m(n):
  |            return metavar if isinstance(metavar, tuple) else (metavar,) * n
  |        if action.nargs is None:
  |            return '%s' % m(1)
  |        if action.nargs == OPTIONAL:
  |            return '[%s]' % m(1)
  |        if action.nargs == ZERO_OR_MORE:
  |            found = m(1)
  |            if len(found) == 2:
  |                return '[%s [%s ...]]' % found
  |            return '[%s ...]' % found
  |        if action.nargs == ONE_OR_MORE:
  |            return '%s [%s ...]' % m(2)
  |        if action.nargs == REMAINDER:
  |            return '...'
  |        if action.nargs == PARSER:
  |            return '%s ...' % m(1)
  |        if action.nargs == SUPPRESS:
  |            return ''
  |        return ' '.join('%s' % x for x in m(action.nargs))
  |    def _expand(self, action):
  |        params = dict(vars(action), prog=self._prog)
  |        for name in list(params):
  |            if params[name] is SUPPRESS:
  |                del params[name]
  |        for name in list(params):
  |            if hasattr(params[name], '__name__'):
  |                params[name] = params[name].__name__
  |        if params.get('choices') is not None:
  |            params['choices'] = ', '.join([str(c) for c in params['choices']])
  |        return self._get_help_string(action) % params
  |    def _get_help_string(self, action):
  |        return action.help
  |    def _split_lines(self, text, width):
  |        import textwrap
  |        return textwrap.wrap(' '.join(text.split()), width)
  |    def _fill_text(self, text, width, indent):
  |        import textwrap
  |        return textwrap.fill(' '.join(text.split()), width, initial_indent=indent,
  |                             subsequent_indent=indent)
  |
  |class RawDescriptionHelpFormatter(HelpFormatter):
  |    def _fill_text(self, text, width, indent):
  |        return ''.join(indent + line for line in text.splitlines(keepends=True))
  |
  |class RawTextHelpFormatter(RawDescriptionHelpFormatter):
  |    def _split_lines(self, text, width):
  |        return text.splitlines()
  |
  |class ArgumentDefaultsHelpFormatter(HelpFormatter):
  |    def _get_help_string(self, action):
  |        help = action.help or ''
  |        if '%(default)' not in help and action.default is not SUPPRESS:
  |            if action.option_strings or action.nargs in (OPTIONAL, ZERO_OR_MORE):
  |                help += ' (default: %(default)s)'
  |        return help
  |
  |class MetavarTypeHelpFormatter(HelpFormatter):
  |    pass
  |
  |class Action:
  |    def __init__(self, option_strings, dest, nargs=None, const=None, default=None, type=None,
  |                 choices=None, required=False, help=None, metavar=None):
  |        self.option_strings = option_strings
  |        self.dest = dest
  |        self.nargs = nargs
  |        self.const = const
  |        self.default = default
  |        self.type = type
  |        self.choices = choices
  |        self.required = required
  |        self.help = help
  |        self.metavar = metavar
  |    def format_usage(self):
  |        return self.option_strings[0]
  |    def __call__(self, parser, namespace, values, option_string=None):
  |        raise NotImplementedError('.__call__() not defined')
  |
  |class BooleanOptionalAction(Action):
  |    def __init__(self, option_strings, dest, default=None, type=None, choices=None,
  |                 required=False, help=None, metavar=None):
  |        options = []
  |        for option in option_strings:
  |            options.append(option)
  |            if option.startswith('--'):
  |                options.append('--no-' + option[2:])
  |        super().__init__(options, dest, nargs=0, default=default, type=type, choices=choices,
  |                         required=required, help=help, metavar=metavar)
  |    def __call__(self, parser, namespace, values, option_string=None):
  |        if option_string in self.option_strings:
  |            setattr(namespace, self.dest, not option_string.startswith('--no-'))
  |    def format_usage(self):
  |        return ' | '.join(self.option_strings)
  |
  |class _StoreAction(Action):
  |    def __init__(self, option_strings, dest, nargs=None, **rest):
  |        if nargs == 0:
  |            raise ValueError('nargs for store actions must be != 0; if you have nothing to '
  |                             'store, actions such as store true or store const may be more '
  |                             'appropriate')
  |        super().__init__(option_strings, dest, nargs, **rest)
  |    def __call__(self, parser, namespace, values, option_string=None):
  |        setattr(namespace, self.dest, values)
  |
  |class _StoreConstAction(Action):
  |    def __init__(self, option_strings, dest, const=None, default=None, required=False,
  |                 help=None, metavar=None):
  |        super().__init__(option_strings, dest, nargs=0, const=const, default=default,
  |                         required=required, help=help)
  |    def __call__(self, parser, namespace, values, option_string=None):
  |        setattr(namespace, self.dest, self.const)
  |
  |class _StoreTrueAction(_StoreConstAction):
  |    def __init__(self, option_strings, dest, default=False, required=False, help=None):
  |        super().__init__(option_strings, dest, const=True, default=default, required=required,
  |                         help=help)
  |
  |class _StoreFalseAction(_StoreConstAction):
  |    def __init__(self, option_strings, dest, default=True, required=False, help=None):
  |        super().__init__(option_strings, dest, const=False, default=default, required=required,
  |                         help=help)
  |
  |def _copied(items):
  |    return [] if items is None else list(items)
  |
  |class _AppendAction(Action):
  |    def __init__(self, option_strings, dest, nargs=None, **rest):
  |        if nargs == 0:
  |            raise ValueError('nargs for append actions must be != 0')
  |        super().__init__(option_strings, dest, nargs, **rest)
  |    def __call__(self, parser, namespace, values, option_string=None):
  |        items = _copied(getattr(namespace, self.dest, None))
  |        items.append(values)
  |        setattr(namespace, self.dest, items)
  |
  |class _AppendConstAction(Action):
  |    def __init__(self, option_strings, dest, const=None, default=None, required=False,
  |                 help=None, metavar=None):
  |        super().__init__(option_strings, dest, nargs=0, const=const, default=default,
  |                         required=required, help=help, metavar=metavar)
  |    def __call__(self, parser, namespace, values, option_string=None):
  |        items = _copied(getattr(namespace, self.dest, None))
  |        items.append(self.const)
  |        setattr(namespace, self.dest, items)
  |
  |class _ExtendAction(_AppendAction):
  |    def __call__(self, parser, namespace, values, option_string=None):
  |        items = _copied(getattr(namespace, self.dest, None))
  |        items.extend(values)
  |        setattr(namespace, self.dest, items)
  |
  |class _CountAction(Action):
  |    def __init__(self, option_strings, dest, default=None, required=False, help=None):
  |        super().__init__(option_strings, dest, nargs=0, default=default, required=required,
  |                         help=help)
  |    def __call__(self, parser, namespace, values, option_string=None):
  |        count = getattr(namespace, self.dest, None)
  |        setattr(namespace, self.dest, (0 if count is None else count) + 1)
  |
  |class _HelpAction(Action):
  |    def __init__(self, option_strings, dest=SUPPRESS, default=SUPPRESS, help=None):
  |        super().__init__(option_strings, dest, nargs=0, default=default, help=help)
  |    def __call__(self, parser, namespace, values, option_string=None):
  |        parser.print_help()
  |        parser.exit()
  |
  |class _VersionAction(Action):
  |    def __init__(self, option_strings, version=None, dest=SUPPRESS, default=SUPPRESS,
  |                 help="show program's version number and exit"):
  |        super().__init__(option_strings, dest, nargs=0, default=default, help=help)
  |        self.version = version
  |    def __call__(self, parser, namespace, values, option_string=None):
  |        version = self.version
  |        if version is None:
  |            version = parser.version
  |        formatter = parser._get_formatter()
  |        formatter.add_text(version)
  |        parser._print_message(formatter.format_help(), sys.stdout)
  |        parser.exit()
  |
  |class _ChoicesPseudoAction(Action):
  |    def __init__(self, name, aliases, help):
  |        metavar = dest = name
  |        if aliases:
  |            metavar += ' (%s)' % ', '.join(aliases)
  |        super().__init__([], dest, help=help, metavar=metavar)
  |
  |class _SubParsersAction(Action):
  |    def __init__(self, option_strings, prog, parser_class, dest=SUPPRESS, required=False,
  |                 help=None, metavar=None):
  |        self._prog_prefix = prog
  |        self._parser_class = parser_class
  |        self._name_parser_map = dict()
  |        self._choices_actions = []
  |        super().__init__(option_strings, dest, nargs=PARSER, choices=self._name_parser_map,
  |                         required=required, help=help, metavar=metavar)
  |    def add_parser(self, name, *, aliases=(), **kwargs):
  |        if kwargs.get('prog') is None:
  |            kwargs['prog'] = '%s %s' % (self._prog_prefix, name)
  |        if 'help' in kwargs:
  |            help = kwargs.pop('help')
  |            self._choices_actions.append(_ChoicesPseudoAction(name, aliases, help))
  |        kwargs.pop('deprecated', None)
  |        parser = self._parser_class(**kwargs)
  |        self._name_parser_map[name] = parser
  |        for alias in aliases:
  |            self._name_parser_map[alias] = parser
  |        return parser
  |    def __call__(self, parser, namespace, values, option_string=None):
  |        parser_name = values[0]
  |        arg_strings = values[1:]
  |        if self.dest is not SUPPRESS:
  |            setattr(namespace, self.dest, parser_name)
  |        try:
  |            subparser = self._name_parser_map[parser_name]
  |        except KeyError:
  |            raise ArgumentError(self, 'unknown parser %r (choices: %s)' % (
  |                parser_name, ', '.join(self._name_parser_map))) from None
  |        subnamespace, arg_strings = subparser.parse_known_args(arg_strings, None)
  |        for key, value in vars(subnamespace).items():
  |            setattr(namespace, key, value)
  |        if arg_strings:
  |            if not hasattr(namespace, _UNRECOGNIZED):
  |                setattr(namespace, _UNRECOGNIZED, [])
  |            getattr(namespace, _UNRECOGNIZED).extend(arg_strings)
  |
  |class FileType:
  |    def __init__(self, mode='r', bufsize=-1, encoding=None, errors=None):
  |        self._mode = mode
  |        self._bufsize = bufsize
  |        self._encoding = encoding
  |        self._errors = errors
  |    def __call__(self, string):
  |        if string == '-':
  |            if 'r' in self._mode:
  |                return sys.stdin.buffer if 'b' in self._mode else sys.stdin
  |            if any(c in self._mode for c in 'wax'):
  |                return sys.stdout.buffer if 'b' in self._mode else sys.stdout
  |            raise ValueError('argument "-" with mode %r' % self._mode)
  |        try:
  |            return open(string, self._mode, self._bufsize, self._encoding, self._errors)
  |        except OSError as e:
  |            raise ArgumentTypeError("can't open '%s': %s" % (string, e))
  |
  |_actions = dict([
  |    (None, _StoreAction), ('store', _StoreAction), ('store_const', _StoreConstAction),
  |    ('store_true', _StoreTrueAction), ('store_false', _StoreFalseAction),
  |    ('append', _AppendAction), ('append_const', _AppendConstAction), ('count', _CountAction),
  |    ('help', _HelpAction), ('version', _VersionAction), ('extend', _ExtendAction),
  |    ('parsers', _SubParsersAction)])
  |
  |class _ActionsContainer:
  |    def __init__(self, description, prefix_chars, argument_default, conflict_handler):
  |        self.description = description
  |        self.argument_default = argument_default
  |        self.prefix_chars = prefix_chars
  |        self.conflict_handler = conflict_handler
  |        self._registered = dict()
  |        self._actions = []
  |        self._option_string_actions = dict()
  |        self._action_groups = []
  |        self._mutually_exclusive_groups = []
  |        self._defaults = dict()
  |        self._has_negative_number_optionals = []
  |    def register(self, registry_name, value, object):
  |        self._registered[registry_name, value] = object
  |    def _registry_get(self, registry_name, value, default=None):
  |        if (registry_name, value) in self._registered:
  |            return self._registered[registry_name, value]
  |        if registry_name == 'action':
  |            return _actions.get(value, default) if isinstance(value, (str, type(None))) \
  |                else default
  |        return default
  |    def set_defaults(self, **kwargs):
  |        self._defaults.update(kwargs)
  |        for action in self._actions:
  |            if action.dest in kwargs:
  |                action.default = kwargs[action.dest]
  |    def get_default(self, dest):
  |        for action in self._actions:
  |            if action.dest == dest and action.default is not None:
  |                return action.default
  |        return self._defaults.get(dest, None)
  |    def add_argument(self, *args, **kwargs):
  |        chars = self.prefix_chars
  |        if not args or len(args) == 1 and args[0][0] not in chars:
  |            if args and 'dest' in kwargs:
  |                raise ValueError('dest supplied twice for positional argument')
  |            kwargs = self._positional(*args, **kwargs)
  |        else:
  |            kwargs = self._optional(*args, **kwargs)
  |        if 'default' not in kwargs:
  |            dest = kwargs['dest']
  |            if dest in self._defaults:
  |                kwargs['default'] = self._defaults[dest]
  |            elif self.argument_default is not None:
  |                kwargs['default'] = self.argument_default
  |        name = kwargs.pop('action', None)
  |        action_class = self._registry_get('action', name, name)
  |        if not callable(action_class):
  |            raise ValueError('unknown action "%s"' % (action_class,))
  |        action = action_class(**kwargs)
  |        if action.type is not None and not callable(action.type):
  |            raise ValueError('%r is not callable' % (action.type,))
  |        return self._add_action(action)
  |    def _positional(self, dest, **kwargs):
  |        if 'required' in kwargs:
  |            raise TypeError("'required' is an invalid argument for positionals")
  |        if kwargs.get('nargs') not in (OPTIONAL, ZERO_OR_MORE, REMAINDER, SUPPRESS, 0):
  |            kwargs['required'] = True
  |        if kwargs.get('nargs') == ZERO_OR_MORE and 'default' not in kwargs:
  |            kwargs['required'] = True
  |        return dict(kwargs, dest=dest, option_strings=[])
  |    def _optional(self, *args, **kwargs):
  |        option_strings = []
  |        long = []
  |        for option in args:
  |            if option[0] not in self.prefix_chars:
  |                raise ValueError('invalid option string %r: must start with a character %r'
  |                                 % (option, self.prefix_chars))
  |            option_strings.append(option)
  |            if len(option) > 1 and option[1] in self.prefix_chars:
  |                long.append(option)
  |        dest = kwargs.pop('dest', None)
  |        if dest is None:
  |            dest = (long or option_strings)[0].lstrip(self.prefix_chars)
  |            if not dest:
  |                raise ValueError('dest= is required for options like %r' % option)
  |            dest = dest.replace('-', '_')
  |        return dict(kwargs, dest=dest, option_strings=option_strings)
  |    def add_argument_group(self, *args, **kwargs):
  |        group = _ArgumentGroup(self, *args, **kwargs)
  |        self._action_groups.append(group)
  |        return group
  |    def add_mutually_exclusive_group(self, **kwargs):
  |        group = _MutuallyExclusiveGroup(self, **kwargs)
  |        self._mutually_exclusive_groups.append(group)
  |        return group
  |    def _add_action(self, action):
  |        for option in action.option_strings:
  |            if option in self._option_string_actions:
  |                if self.conflict_handler == 'resolve':
  |                    old = self._option_string_actions.pop(option)
  |                    old.option_strings.remove(option)
  |                    if not old.option_strings:
  |                        old.container._remove_action(old)
  |                else:
  |                    raise ArgumentError(action, 'conflicting option string: ' + option)
  |        self._actions.append(action)
  |        action.container = self
  |        for option in action.option_strings:
  |            self._option_string_actions[option] = action
  |            if re.match(r'^-\d+$|^-\d*\.\d+$', option):
  |                self._has_negative_number_optionals.append(True)
  |        return action
  |    def _remove_action(self, action):
  |        self._actions.remove(action)
  |
  |class _ArgumentGroup(_ActionsContainer):
  |    def __init__(self, container, title=None, description=None, **kwargs):
  |        super().__init__(description, kwargs.get('prefix_chars', container.prefix_chars),
  |                         kwargs.get('argument_default', container.argument_default),
  |                         kwargs.get('conflict_handler', container.conflict_handler))
  |        self.title = title
  |        self._group_actions = []
  |        self._registered = container._registered
  |        self._actions = container._actions
  |        self._option_string_actions = container._option_string_actions
  |        self._defaults = container._defaults
  |        self._has_negative_number_optionals = container._has_negative_number_optionals
  |        self._mutually_exclusive_groups = container._mutually_exclusive_groups
  |    def _add_action(self, action):
  |        action = super()._add_action(action)
  |        self._group_actions.append(action)
  |        return action
  |    def _remove_action(self, action):
  |        super()._remove_action(action)
  |        self._group_actions.remove(action)
  |
  |class _MutuallyExclusiveGroup(_ArgumentGroup):
  |    def __init__(self, container, required=False):
  |        super().__init__(container)
  |        self.required = required
  |        self._container = container
  |    def _add_action(self, action):
  |        if action.required:
  |            raise ValueError('mutually exclusive arguments must be optional')
  |        action = self._container._add_action(action)
  |        self._group_actions.append(action)
  |        return action
  |
  |class ArgumentParser(_ActionsContainer):
  |    def __init__(self, prog=None, usage=None, description=None, epilog=None, parents=[],
  |                 formatter_class=HelpFormatter, prefix_chars='-', fromfile_prefix_chars=None,
  |                 argument_default=None, conflict_handler='error', add_help=True,
  |                 allow_abbrev=True, exit_on_error=True):
  |        super().__init__(description, prefix_chars, argument_default, conflict_handler)
  |        self.prog = os.path.basename(sys.argv[0]) if prog is None else prog
  |        self.usage = usage
  |        self.epilog = epilog
  |        self.formatter_class = formatter_class
  |        self.fromfile_prefix_chars = fromfile_prefix_chars
  |        self.add_help = add_help
  |        self.allow_abbrev = allow_abbrev
  |        self.exit_on_error = exit_on_error
  |        self._positionals = self.add_argument_group('positional arguments')
  |        self._optionals = self.add_argument_group('options')
  |        self._subparsers = None
  |        if add_help:
  |            mark = '-' if '-' in prefix_chars else prefix_chars[0]
  |            self.add_argument(mark + 'h', mark * 2 + 'help', action='help', default=SUPPRESS,
  |                              help='show this help message and exit')
  |        for parent in parents:
  |            for action in parent._actions:
  |                if isinstance(action, _HelpAction):
  |                    continue
  |                self._add_action(action)
  |            self._defaults.update(parent._defaults)
  |    def add_subparsers(self, **kwargs):
  |        if self._subparsers is not None:
  |            raise ArgumentError(None, 'cannot have multiple subparser arguments')
  |        kwargs.setdefault('parser_class', type(self))
  |        if 'title' in kwargs or 'description' in kwargs:
  |            title = kwargs.pop('title', 'subcommands')
  |            description = kwargs.pop('description', None)
  |            self._subparsers = self.add_argument_group(title, description)
  |        else:
  |            self._subparsers = self._positionals
  |        if kwargs.get('prog') is None:
  |            formatter = self._get_formatter()
  |            formatter.add_usage(self.usage, self._get_positional_actions(),
  |                                self._mutually_exclusive_groups, '')
  |            kwargs['prog'] = formatter.format_help().strip()
  |        action = _SubParsersAction(option_strings=[], **kwargs)
  |        self._subparsers._add_action(action)
  |        return action
  |    def _add_action(self, action):
  |        if action.option_strings:
  |            self._optionals._add_action(action)
  |        else:
  |            self._positionals._add_action(action)
  |        return action
  |    def _get_optional_actions(self):
  |        return [action for action in self._actions if action.option_strings]
  |    def _get_positional_actions(self):
  |        return [action for action in self._actions if not action.option_strings]
  |    def parse_args(self, args=None, namespace=None):
  |        args, argv = self.parse_known_args(args, namespace)
  |        if argv:
  |            self.error('unrecognized arguments: ' + ' '.join(argv))
  |        return args
  |    def parse_known_args(self, args=None, namespace=None):
  |        args = sys.argv[1:] if args is None else list(args)
  |        if namespace is None:
  |            namespace = Namespace()
  |        for action in self._actions:
  |            if action.dest is not SUPPRESS and not hasattr(namespace, action.dest) \
  |                    and action.default is not SUPPRESS:
  |                setattr(namespace, action.dest, action.default)
  |        for dest in self._defaults:
  |            if not hasattr(namespace, dest):
  |                setattr(namespace, dest, self._defaults[dest])
  |        if self.exit_on_error:
  |            try:
  |                namespace, args = self._parse_known_args(args, namespace)
  |            except ArgumentError as err:
  |                self.error(str(err))
  |        else:
  |            namespace, args = self._parse_known_args(args, namespace)
  |        if hasattr(namespace, _UNRECOGNIZED):
  |            args.extend(getattr(namespace, _UNRECOGNIZED))
  |            delattr(namespace, _UNRECOGNIZED)
  |        return namespace, args
  |    def parse_intermixed_args(self, args=None, namespace=None):
  |        return self.parse_args(args, namespace)
  |    def parse_known_intermixed_args(self, args=None, namespace=None):
  |        return self.parse_known_args(args, namespace)
  |    def _parse_known_args(self, strings, namespace):
  |        if self.fromfile_prefix_chars is not None:
  |            strings = self._read_args_from_files(strings)
  |        self._seen = []
  |        self._seen_non_default = []
  |        options = dict()
  |        marks = []
  |        rest = iter(range(len(strings)))
  |        plain = False
  |        for i, s in enumerate(strings):
  |            if plain:
  |                marks.append('A')
  |            elif s == '--':
  |                marks.append('-')
  |                plain = True
  |            else:
  |                option = self._parse_optional(s)
  |                if option is None:
  |                    marks.append('A')
  |                else:
  |                    options[i] = option
  |                    marks.append('O')
  |        pattern = ''.join(marks)
  |        positionals = self._get_positional_actions()
  |        extras = []
  |        last = max(options) if options else -1
  |        start = 0
  |        while start <= last:
  |            following = min(i for i in options if i >= start)
  |            if start != following:
  |                before = start
  |                start = self._take_positionals(positionals, strings, pattern, start, namespace)
  |                if start > before:
  |                    continue
  |            if start not in options:
  |                extras.extend(strings[start:following])
  |                start = following
  |            start = self._take_optional(options, strings, pattern, start, namespace, extras)
  |        stop = self._take_positionals(positionals, strings, pattern, start, namespace, True)
  |        extras.extend(strings[stop:])
  |        missing = []
  |        for action in self._actions:
  |            if not any(action is a for a in self._seen):
  |                if action.required:
  |                    missing.append(_name_of(action))
  |                elif action.default is not None and isinstance(action.default, str) \
  |                        and hasattr(namespace, action.dest) \
  |                        and action.default is getattr(namespace, action.dest):
  |                    setattr(namespace, action.dest, self._get_value(action, action.default))
  |        if missing:
  |            raise ArgumentError(None, 'the following arguments are required: '
  |                                + ', '.join(str(name) for name in missing))
  |        for group in self._mutually_exclusive_groups:
  |            if group.required:
  |                if not any(action is a for action in group._group_actions
  |                           for a in self._seen_non_default):
  |                    names = [_name_of(a) for a in group._group_actions
  |                             if a.help is not SUPPRESS]
  |                    raise ArgumentError(None, 'one of the arguments %s is required'
  |                                        % ' '.join(names))
  |        return namespace, extras
  |    def _run(self, action, texts, namespace, option_string=None):
  |        self._seen.append(action)
  |        values = self._get_values(action, texts)
  |        if values is not action.default:
  |            self._seen_non_default.append(action)
  |            for group in self._mutually_exclusive_groups:
  |                if any(action is a for a in group._group_actions):
  |                    for other in group._group_actions:
  |                        if other is not action and any(other is a
  |                                                       for a in self._seen_non_default):
  |                            raise ArgumentError(action, 'not allowed with argument '
  |                                                + _name_of(other))
  |        if values is not SUPPRESS:
  |            action(self, namespace, values, option_string)
  |    def _take_optional(self, options, strings, pattern, start, namespace, extras):
  |        action, option_string, sep, explicit = options[start]
  |        todo = []
  |        while True:
  |            if action is None:
  |                extras.append(strings[start])
  |                return start + 1
  |            if explicit is not None:
  |                count = self._match_argument(action, 'A')
  |                if count == 0 and option_string[1] not in self.prefix_chars and explicit != '':
  |                    if sep or explicit[0] in self.prefix_chars:
  |                        raise ArgumentError(action, 'ignored explicit argument %r' % explicit)
  |                    todo.append((action, [], option_string))
  |                    option_string = option_string[0] + explicit[0]
  |                    if option_string in self._option_string_actions:
  |                        action = self._option_string_actions[option_string]
  |                        explicit = explicit[1:]
  |                        if not explicit:
  |                            sep = explicit = None
  |                        elif explicit[0] == '=':
  |                            sep = '='
  |                            explicit = explicit[1:]
  |                        else:
  |                            sep = ''
  |                        continue
  |                    extras.append(option_string[0] + explicit)
  |                    stop = start + 1
  |                    break
  |                elif count == 1:
  |                    stop = start + 1
  |                    todo.append((action, [explicit], option_string))
  |                    break
  |                raise ArgumentError(action, 'ignored explicit argument %r' % explicit)
  |            begin = start + 1
  |            count = self._match_argument(action, pattern[begin:])
  |            stop = begin + count
  |            todo.append((action, strings[begin:stop], option_string))
  |            break
  |        for action, args, option_string in todo:
  |            self._run(action, args, namespace, option_string)
  |        return stop
  |    def _take_positionals(self, positionals, strings, pattern, start, namespace, last=False):
  |        counts = self._match_partial(positionals, pattern[start:])
  |        for action, count in zip(list(positionals), counts):
  |            args = strings[start:start + count]
  |            if action.nargs not in (PARSER, REMAINDER):
  |                if '-' in pattern[start:start + count] and '--' in args:
  |                    args.remove('--')
  |            start += count
  |            self._run(action, args, namespace)
  |        positionals[:] = positionals[len(counts):]
  |        return start
  |    def _match_partial(self, actions, pattern):
  |        for i in range(len(actions), 0, -1):
  |            whole = ''.join(self._nargs_pattern(action) for action in actions[:i])
  |            m = re.match(whole, pattern)
  |            if m is not None:
  |                return [len(string) for string in m.groups()]
  |        return []
  |    def _match_argument(self, action, pattern):
  |        m = re.match(self._nargs_pattern(action), pattern)
  |        if m is None:
  |            if action.nargs is None:
  |                message = 'expected one argument'
  |            elif action.nargs == OPTIONAL:
  |                message = 'expected at most one argument'
  |            elif action.nargs == ONE_OR_MORE:
  |                message = 'expected at least one argument'
  |            elif action.nargs == 1:
  |                message = 'expected 1 argument'
  |            else:
  |                message = 'expected %s arguments' % action.nargs
  |            raise ArgumentError(action, message)
  |        return len(m.group(1))
  |    def _nargs_pattern(self, action):
  |        nargs = action.nargs
  |        if nargs is None:
  |            found = '(-*A-*)'
  |        elif nargs == OPTIONAL:
  |            found = '(-*A?-*)'
  |        elif nargs == ZERO_OR_MORE:
  |            found = '(-*[A-]*)'
  |        elif nargs == ONE_OR_MORE:
  |            found = '(-*A[A-]*)'
  |        elif nargs == REMAINDER:
  |            found = '([-AO]*)'
  |        elif nargs == PARSER:
  |            found = '(-*A[-AO]*)'
  |        elif nargs == SUPPRESS:
  |            found = '(-*-*)'
  |        else:
  |            found = '(-*%s-*)' % '-*'.join('A' * nargs)
  |        if action.option_strings:
  |            found = found.replace('-*', '').replace('-', '')
  |        return found
  |    def _parse_optional(self, s):
  |        if not s or s[0] not in self.prefix_chars:
  |            return None
  |        if s in self._option_string_actions:
  |            return self._option_string_actions[s], s, None, None
  |        if len(s) == 1:
  |            return None
  |        option, sep, explicit = s.partition('=')
  |        if sep and option in self._option_string_actions:
  |            return self._option_string_actions[option], option, sep, explicit
  |        found = self._get_option_tuples(s)
  |        if len(found) > 1:
  |            names = ', '.join([name for action, name, sep, explicit in found])
  |            self.error('ambiguous option: %s could match %s' % (s, names))
  |        if len(found) == 1:
  |            return found[0]
  |        if re.match(r'^-\d+$|^-\d*\.\d+$', s):
  |            if not self._has_negative_number_optionals:
  |                return None
  |        if ' ' in s:
  |            return None
  |        return None, s, None, None
  |    def _get_option_tuples(self, s):
  |        found = []
  |        chars = self.prefix_chars
  |        if s[0] in chars and s[1] in chars:
  |            if self.allow_abbrev:
  |                prefix, sep, explicit = s.partition('=')
  |                if not sep:
  |                    sep = explicit = None
  |                for option in self._option_string_actions:
  |                    if option.startswith(prefix):
  |                        found.append((self._option_string_actions[option], option, sep,
  |                                      explicit))
  |        elif s[0] in chars:
  |            short = s[:2]
  |            rest = s[2:]
  |            for option in self._option_string_actions:
  |                if option == short:
  |                    found.append((self._option_string_actions[option], option, '', rest))
  |                elif option.startswith(s):
  |                    found.append((self._option_string_actions[option], option, None, None))
  |        return found
  |    def _get_values(self, action, texts):
  |        if not texts and action.nargs == OPTIONAL:
  |            value = action.const if action.option_strings else action.default
  |            if isinstance(value, str):
  |                value = self._get_value(action, value)
  |                self._check_value(action, value)
  |        elif not texts and action.nargs == ZERO_OR_MORE and not action.option_strings:
  |            value = action.default if action.default is not None else []
  |        elif len(texts) == 1 and action.nargs in (None, OPTIONAL):
  |            value = self._get_value(action, texts[0])
  |            self._check_value(action, value)
  |        elif action.nargs == REMAINDER:
  |            value = [self._get_value(action, v) for v in texts]
  |        elif action.nargs == PARSER:
  |            value = [self._get_value(action, v) for v in texts]
  |            self._check_value(action, value[0])
  |        elif action.nargs == SUPPRESS:
  |            value = SUPPRESS
  |        else:
  |            value = [self._get_value(action, v) for v in texts]
  |            for v in value:
  |                self._check_value(action, v)
  |        return value
  |    def _get_value(self, action, text):
  |        convert = self._registry_get('type', action.type, action.type)
  |        if convert is None:
  |            return text
  |        try:
  |            return convert(text)
  |        except ArgumentTypeError as err:
  |            raise ArgumentError(action, str(err))
  |        except (TypeError, ValueError):
  |            name = getattr(action.type, '__name__', repr(action.type))
  |            raise ArgumentError(action, 'invalid %s value: %r' % (name, text))
  |    def _check_value(self, action, value):
  |        if action.choices is not None and value not in action.choices:
  |            raise ArgumentError(action, 'invalid choice: %r (choose from %s)' % (
  |                value, ', '.join(map(repr, action.choices))))
  |    def _read_args_from_files(self, strings):
  |        found = []
  |        for s in strings:
  |            if not s or s[0] not in self.fromfile_prefix_chars:
  |                found.append(s)
  |                continue
  |            try:
  |                with open(s[1:]) as f:
  |                    lines = [arg for line in f.read().splitlines()
  |                             for arg in self.convert_arg_line_to_args(line)]
  |            except OSError as err:
  |                raise ArgumentError(None, str(err))
  |            found.extend(self._read_args_from_files(lines))
  |        return found
  |    def convert_arg_line_to_args(self, arg_line):
  |        return [arg_line]
  |    def format_usage(self):
  |        formatter = self._get_formatter()
  |        formatter.add_usage(self.usage, self._actions, self._mutually_exclusive_groups)
  |        return formatter.format_help()
  |    def format_help(self):
  |        formatter = self._get_formatter()
  |        formatter.add_usage(self.usage, self._actions, self._mutually_exclusive_groups)
  |        formatter.add_text(self.description)
  |        for group in self._action_groups:
  |            formatter.start_section(group.title)
  |            formatter.add_text(group.description)
  |            formatter.add_arguments(group._group_actions)
  |            formatter.end_section()
  |        formatter.add_text(self.epilog)
  |        return formatter.format_help()
  |    def _get_formatter(self):
  |        return self.formatter_class(prog=self.prog)
  |    def print_usage(self, file=None):
  |        self._print_message(self.format_usage(), file or sys.stdout)
  |    def print_help(self, file=None):
  |        self._print_message(self.format_help(), file or sys.stdout)
  |    def _print_message(self, message, file=None):
  |        if message:
  |            (file or sys.stderr).write(message)
  |    def exit(self, status=0, message=None):
  |        if message:
  |            self._print_message(message, sys.stderr)
  |        sys.exit(status)
  |    def error(self, message):
  |        self.print_usage(sys.stderr)
  |        self.exit(2, '%s: error: %s\n' % (self.prog, message))"#

/-- Options by their letters. -/
def plainOptions : String := r#"
  |import os
  |
  |class GetoptError(Exception):
  |    def __init__(self, msg, opt=''):
  |        self.msg = msg
  |        self.opt = opt
  |        Exception.__init__(self, msg, opt)
  |    def __str__(self):
  |        return self.msg
  |
  |error = GetoptError
  |
  |def getopt(args, shortopts, longopts=[]):
  |    opts = []
  |    longopts = [longopts] if isinstance(longopts, str) else list(longopts)
  |    while args and args[0].startswith('-') and args[0] != '-':
  |        if args[0] == '--':
  |            args = args[1:]
  |            break
  |        if args[0].startswith('--'):
  |            opts, args = _long(opts, args[0][2:], longopts, args[1:])
  |        else:
  |            opts, args = _short(opts, args[0][1:], shortopts, args[1:])
  |    return opts, args
  |
  |def gnu_getopt(args, shortopts, longopts=[]):
  |    opts = []
  |    rest = []
  |    longopts = [longopts] if isinstance(longopts, str) else list(longopts)
  |    stops = bool(os.environ.get('POSIXLY_CORRECT'))
  |    if shortopts.startswith('+'):
  |        shortopts = shortopts[1:]
  |        stops = True
  |    while args:
  |        if args[0] == '--':
  |            rest += args[1:]
  |            break
  |        if args[0][:2] == '--':
  |            opts, args = _long(opts, args[0][2:], longopts, args[1:])
  |        elif args[0][:1] == '-' and args[0] != '-':
  |            opts, args = _short(opts, args[0][1:], shortopts, args[1:])
  |        elif stops:
  |            rest += args
  |            break
  |        else:
  |            rest.append(args[0])
  |            args = args[1:]
  |    return opts, rest
  |
  |def _long(opts, opt, longopts, args):
  |    opt, eq, optarg = opt.partition('=')
  |    if not eq:
  |        optarg = None
  |    wanted = [o for o in longopts if o.startswith(opt)]
  |    if not wanted:
  |        raise GetoptError('option --%s not recognized' % opt, opt)
  |    if opt in wanted:
  |        has_arg, name = False, opt
  |    elif opt + '=' in wanted:
  |        has_arg, name = True, opt
  |    elif len(wanted) > 1:
  |        raise GetoptError('option --%s not a unique prefix' % opt, opt)
  |    else:
  |        name = wanted[0]
  |        has_arg = name.endswith('=')
  |        if has_arg:
  |            name = name[:-1]
  |    if has_arg:
  |        if optarg is None:
  |            if not args:
  |                raise GetoptError('option --%s requires argument' % name, name)
  |            optarg, args = args[0], args[1:]
  |    elif optarg is not None:
  |        raise GetoptError('option --%s must not have an argument' % name, name)
  |    opts.append(('--' + name, optarg or ''))
  |    return opts, args
  |
  |def _short(opts, optstring, shortopts, args):
  |    while optstring:
  |        opt, optstring = optstring[0], optstring[1:]
  |        place = shortopts.find(opt)
  |        if place < 0 or opt == ':':
  |            raise GetoptError('option -%s not recognized' % opt, opt)
  |        if shortopts[place + 1:place + 2] == ':':
  |            if optstring == '':
  |                if not args:
  |                    raise GetoptError('option -%s requires argument' % opt, opt)
  |                optstring, args = args[0], args[1:]
  |            optarg, optstring = optstring, ''
  |        else:
  |            optarg = ''
  |        opts.append(('-' + opt, optarg))
  |    return opts, args"#

/-- Options by their names. -/
def namedOptions : String := r#"
  |import os
  |import sys
  |SUPPRESS_HELP = 'SUPPRESSHELP'
  |SUPPRESS_USAGE = 'SUPPRESSUSAGE'
  |NO_DEFAULT = ('NO', 'DEFAULT')
  |
  |class OptParseError(Exception):
  |    def __init__(self, msg):
  |        self.msg = msg
  |    def __str__(self):
  |        return self.msg
  |
  |class OptionError(OptParseError):
  |    pass
  |
  |class OptionValueError(OptParseError):
  |    pass
  |
  |class BadOptionError(OptParseError):
  |    pass
  |
  |class Values:
  |    def __init__(self, defaults=None):
  |        for name, value in (defaults or dict()).items():
  |            setattr(self, name, value)
  |    def __str__(self):
  |        return str(self.__dict__)
  |    __repr__ = __str__
  |    def ensure_value(self, attr, value):
  |        if getattr(self, attr, None) is None:
  |            setattr(self, attr, value)
  |        return getattr(self, attr)
  |
  |class Option:
  |    def __init__(self, *opts, action='store', type=None, dest=None, default=NO_DEFAULT,
  |                 nargs=None, const=None, choices=None, callback=None, callback_args=None,
  |                 callback_kwargs=None, help=None, metavar=None):
  |        self._short_opts = [o for o in opts if o and o[:2] != '--']
  |        self._long_opts = [o for o in opts if o and o[:2] == '--']
  |        self.action = action
  |        if type is str:
  |            type = 'string'
  |        elif type in (int, float):
  |            type = type.__name__
  |        if type is None and action in ('store', 'append'):
  |            type = 'choice' if choices is not None else 'string'
  |        self.type = type
  |        if dest is None and action not in ('help', 'version', 'callback'):
  |            if self._long_opts:
  |                dest = self._long_opts[0][2:].replace('-', '_')
  |            else:
  |                dest = self._short_opts[0][1]
  |        self.dest = dest
  |        self.default = default
  |        self.nargs = 1 if nargs is None and type is not None else nargs
  |        self.const = const
  |        self.choices = choices
  |        self.callback = callback
  |        self.callback_args = callback_args
  |        self.callback_kwargs = callback_kwargs
  |        self.help = help
  |        self.metavar = metavar
  |    def __str__(self):
  |        return '/'.join(self._short_opts + self._long_opts)
  |    def takes_value(self):
  |        return self.type is not None
  |    def check(self, opt, value):
  |        try:
  |            if self.type in ('int', 'long'):
  |                return int(value, 0)
  |            if self.type == 'float':
  |                return float(value)
  |        except ValueError:
  |            raise OptionValueError('option %s: invalid %s value: %r' % (
  |                opt, dict(int='integer', float='floating-point').get(self.type), value))
  |        if self.type == 'choice' and value not in self.choices:
  |            raise OptionValueError('option %s: invalid choice: %r (choose from %s)' % (
  |                opt, value, ', '.join(map(repr, self.choices))))
  |        return value
  |    def process(self, opt, value, values, parser):
  |        if value is not None:
  |            if self.nargs == 1:
  |                value = self.check(opt, value)
  |            else:
  |                value = tuple(self.check(opt, v) for v in value)
  |        action = self.action
  |        if action == 'store':
  |            setattr(values, self.dest, value)
  |        elif action == 'store_const':
  |            setattr(values, self.dest, self.const)
  |        elif action == 'store_true':
  |            setattr(values, self.dest, True)
  |        elif action == 'store_false':
  |            setattr(values, self.dest, False)
  |        elif action == 'append':
  |            values.ensure_value(self.dest, []).append(value)
  |        elif action == 'append_const':
  |            values.ensure_value(self.dest, []).append(self.const)
  |        elif action == 'count':
  |            setattr(values, self.dest, values.ensure_value(self.dest, 0) + 1)
  |        elif action == 'callback':
  |            self.callback(self, opt, value, parser, *(self.callback_args or ()),
  |                          **(self.callback_kwargs or dict()))
  |        elif action == 'help':
  |            parser.print_help()
  |            parser.exit()
  |        elif action == 'version':
  |            parser.print_version()
  |            parser.exit()
  |
  |make_option = Option
  |
  |class OptionContainer:
  |    def __init__(self, description=None):
  |        self.option_list = []
  |        self.description = description
  |    def add_option(self, *args, **kwargs):
  |        option = args[0] if isinstance(args[0], Option) else Option(*args, **kwargs)
  |        self.option_list.append(option)
  |        parser = self._parser()
  |        for opt in option._short_opts + option._long_opts:
  |            parser._options[opt] = option
  |        if option.dest is not None:
  |            if option.default is not NO_DEFAULT:
  |                parser.defaults[option.dest] = option.default
  |            else:
  |                parser.defaults.setdefault(option.dest, None)
  |        return option
  |    def add_options(self, option_list):
  |        for option in option_list:
  |            self.add_option(option)
  |
  |class OptionGroup(OptionContainer):
  |    def __init__(self, parser, title, description=None):
  |        super().__init__(description)
  |        self.parser = parser
  |        self.title = title
  |    def _parser(self):
  |        return self.parser
  |
  |class OptionParser(OptionContainer):
  |    def __init__(self, usage=None, option_list=None, option_class=Option, version=None,
  |                 conflict_handler='error', description=None, formatter=None,
  |                 add_help_option=True, prog=None, epilog=None):
  |        super().__init__(description)
  |        self._options = dict()
  |        self.defaults = dict()
  |        self.option_groups = []
  |        self.usage = usage
  |        self.version = version
  |        self.prog = prog
  |        self.epilog = epilog
  |        self.allow_interspersed_args = True
  |        for option in option_list or ():
  |            self.add_option(option)
  |        if version:
  |            self.add_option('--version', action='version',
  |                            help="show program's version number and exit")
  |        if add_help_option:
  |            self.add_option('-h', '--help', action='help',
  |                            help='show this help message and exit')
  |    def _parser(self):
  |        return self
  |    def add_option_group(self, *args, **kwargs):
  |        group = args[0]
  |        if not isinstance(group, OptionGroup):
  |            group = OptionGroup(self, *args, **kwargs)
  |        self.option_groups.append(group)
  |        return group
  |    def set_defaults(self, **kwargs):
  |        self.defaults.update(kwargs)
  |    def set_usage(self, usage):
  |        self.usage = usage
  |    def disable_interspersed_args(self):
  |        self.allow_interspersed_args = False
  |    def has_option(self, opt_str):
  |        return opt_str in self._options
  |    def get_option(self, opt_str):
  |        return self._options.get(opt_str)
  |    def get_prog_name(self):
  |        return os.path.basename(sys.argv[0]) if self.prog is None else self.prog
  |    def expand_prog_name(self, s):
  |        return s.replace('%prog', self.get_prog_name())
  |    def parse_args(self, args=None, values=None):
  |        rargs = list(sys.argv[1:] if args is None else args)
  |        if values is None:
  |            values = Values(self.defaults)
  |            for option in self._options.values():
  |                if option.dest and isinstance(self.defaults.get(option.dest), str) \
  |                        and option.type:
  |                    setattr(values, option.dest, option.check(str(option),
  |                                                              self.defaults[option.dest]))
  |        self.rargs = rargs
  |        self.largs = largs = []
  |        self.values = values
  |        try:
  |            while rargs:
  |                arg = rargs[0]
  |                if arg == '--':
  |                    del rargs[0]
  |                    break
  |                if arg[:2] == '--':
  |                    self._long(rargs, values)
  |                elif arg[:1] == '-' and len(arg) > 1:
  |                    self._short(rargs, values)
  |                elif self.allow_interspersed_args:
  |                    largs.append(arg)
  |                    del rargs[0]
  |                else:
  |                    break
  |        except (BadOptionError, OptionValueError) as err:
  |            self.error(str(err))
  |        return values, largs + rargs
  |    def _value(self, option, opt, rargs):
  |        if len(rargs) < option.nargs:
  |            if option.nargs == 1:
  |                self.error('%s option requires 1 argument' % opt)
  |            self.error('%s option requires %d arguments' % (opt, option.nargs))
  |        if option.nargs == 1:
  |            return rargs.pop(0)
  |        value = tuple(rargs[:option.nargs])
  |        del rargs[:option.nargs]
  |        return value
  |    def _long(self, rargs, values):
  |        arg = rargs.pop(0)
  |        opt, eq, given = arg.partition('=')
  |        if eq:
  |            rargs.insert(0, given)
  |        if opt not in self._options:
  |            found = [o for o in self._options if o.startswith(opt)]
  |            if not found:
  |                raise BadOptionError('no such option: %s' % opt)
  |            if len(found) > 1:
  |                raise BadOptionError('ambiguous option: %s (%s?)' % (opt, ', '.join(
  |                    sorted(found))))
  |            opt = found[0]
  |        option = self._options[opt]
  |        if option.takes_value():
  |            value = self._value(option, opt, rargs)
  |        elif eq:
  |            self.error('%s option does not take a value' % opt)
  |        else:
  |            value = None
  |        option.process(opt, value, values, self)
  |    def _short(self, rargs, values):
  |        arg = rargs.pop(0)
  |        i = 1
  |        while i < len(arg):
  |            opt = '-' + arg[i]
  |            i += 1
  |            option = self._options.get(opt)
  |            if not option:
  |                raise BadOptionError('no such option: %s' % opt)
  |            if option.takes_value():
  |                if i < len(arg):
  |                    rargs.insert(0, arg[i:])
  |                option.process(opt, self._value(option, opt, rargs), values, self)
  |                break
  |            option.process(opt, None, values, self)
  |    def get_usage(self):
  |        if self.usage == SUPPRESS_USAGE:
  |            return ''
  |        usage = self.usage or '%prog [options]'
  |        if usage.lower().startswith('usage: '):
  |            usage = usage[7:]
  |        return 'Usage: %s\n' % self.expand_prog_name(usage)
  |    def print_usage(self, file=None):
  |        print(self.get_usage(), file=file)
  |    def get_version(self):
  |        return self.expand_prog_name(self.version) if self.version else ''
  |    def print_version(self, file=None):
  |        if self.version:
  |            print(self.get_version(), file=file)
  |    def exit(self, status=0, msg=None):
  |        if msg:
  |            sys.stderr.write(msg)
  |        sys.exit(status)
  |    def error(self, msg):
  |        self.print_usage(sys.stderr)
  |        self.exit(2, '%s: error: %s\n' % (self.get_prog_name(), msg))
  |    def _shown(self, option):
  |        if not option.takes_value():
  |            return ', '.join(option._short_opts + option._long_opts)
  |        metavar = option.metavar or option.dest.upper()
  |        return ', '.join([o + ' ' + metavar for o in option._short_opts]
  |                         + [o + '=' + metavar for o in option._long_opts])
  |    def format_help(self):
  |        import textwrap
  |        width = 78
  |        parts = [self.get_usage() + '\n'] if self.usage != SUPPRESS_USAGE else []
  |        if self.description:
  |            parts.append(textwrap.fill(self.expand_prog_name(self.description), width) + '\n\n')
  |        groups = [(None, self)] + [(g.title, g) for g in self.option_groups]
  |        shown = [(self._shown(o), 2 if g is self else 4) for t, g in groups
  |                 for o in g.option_list if o.help is not SUPPRESS_HELP]
  |        most = min(max([len(s) + i for s, i in shown] or [0]) + 2, 24)
  |        parts.append('Options:\n')
  |        for title, group in groups:
  |            indent = 2
  |            if title is not None:
  |                parts.append('\n  %s:\n' % title)
  |                indent = 4
  |                if group.description:
  |                    parts.append(textwrap.fill(group.description, width - 4,
  |                                               initial_indent='    ',
  |                                               subsequent_indent='    ') + '\n\n')
  |            for option in group.option_list:
  |                if option.help is SUPPRESS_HELP:
  |                    continue
  |                text = self._shown(option)
  |                room = most - indent - 2
  |                if len(text) > room:
  |                    parts.append('%*s%s\n' % (indent, '', text))
  |                    first = most
  |                else:
  |                    parts.append('%*s%-*s  ' % (indent, '', room, text))
  |                    first = 0
  |                if option.help:
  |                    help = option.help.replace('%default', str(
  |                        self.defaults.get(option.dest)))
  |                    lines = textwrap.wrap(help, width - most)
  |                    parts.append('%*s%s\n' % (first, '', lines[0]))
  |                    parts.extend('%*s%s\n' % (most, '', line) for line in lines[1:])
  |                elif parts[-1][-1] != '\n':
  |                    parts.append('\n')
  |        if self.epilog:
  |            parts.append('\n' + textwrap.fill(self.epilog, width) + '\n')
  |        return ''.join(parts)
  |    def print_help(self, file=None):
  |        (file or sys.stdout).write(self.format_help())"#

end BuiltinWrappers.Script.Indented.Library
